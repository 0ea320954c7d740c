import FiveStage.Json.Arithmetic
import FiveStage.Json.Display

/-!
# The items of a document

How many items a JSON value has, which ones, and what stands at a place. The items of a text are its characters, and
those of an object the names of its fields. Places are counted from zero, and negative ones from the end.

Main statements:
* `position_ofNat`: a place inside is found;
* `length_items`: there are as many items as the length says.
-/

namespace FiveStage.Json

/-- The characters of a text as texts. -/
def characters (s : String) : List Json :=
  s.toList.map fun c => string (String.singleton c)

/-- The length. -/
def size : Json → Except Misuse Nat
  | string s => .ok s.length
  | array items => .ok items.length
  | object fields => .ok fields.length
  | v => .error (.noLength v.kindName)

/-- The items, one after another. -/
def items : Json → Except Misuse (List Json)
  | string s => .ok (characters s)
  | array items => .ok items
  | object fields => .ok (fields.map fun (name, _) => string name)
  | v => .error (.notIterable v.kindName)

/-- The number that a place must not reach, with or without a sign. -/
def placeLimit : Nat := Nat.pow 2 63

/-- The place that a value denotes in something of a kind and a length. -/
def position (kind : String) (length : Nat) (place : Json) : Except Misuse Nat :=
  match place.integer? with
  | none => .error (.place kind place.kindName)
  | some n =>
    if n < -placeLimit ∨ placeLimit ≤ n then .error .farPlace
    else
      let n := if n < 0 then n + length else n
      if 0 ≤ n ∧ n < length then .ok n.toNat else .error (.noPlace kind)

/-- What a list holds at the place that a value denotes. -/
def pick {α : Type} (list : List α) (place : Json) : Except Misuse α := do
  match list[← position "list" list.length place]? with
  | some item => return item
  | none => throw (.noPlace "list")

/-- The value of the field that a value names. -/
def field (fields : List (String × Json)) : Json → Except Misuse Json
  | string name =>
    match fields.lookup name with
    | some value => .ok value
    | none => .error (.noField (Text.quote name))
  | array _ => .error (.unhashable "list")
  | object _ => .error (.unhashable "dict")
  | v => .error (.noField v.display)

/-- What stands in a value under a key: at a place, or in a field. -/
def item (v key : Json) : Except Misuse Json :=
  match v with
  | array items => pick items key
  | string s => do
    match (characters s)[← position "str" s.length key]? with
    | some c => return c
    | none => throw (.noPlace "str")
  | object fields => field fields key
  | v => .error (.noItems v.kindName)

theorem position_ofNat (kind : String) {length n : Nat} (h : n < length) (hn : n < placeLimit) :
    position kind length (int n) = .ok n := by
  have hfar : ¬((n : Int) < -placeLimit ∨ (placeLimit : Int) ≤ n) := by omega
  have hsign : ¬(n : Int) < 0 := by omega
  have hin : 0 ≤ (n : Int) ∧ (n : Int) < length := by omega
  simp only [position, integer?, Number.ofJson?, Option.bind_some, Number.integer?, if_neg hfar, if_neg hsign,
    if_pos hin, Int.toNat_natCast]

theorem length_items (v : Json) : v.items.toOption.map List.length = v.size.toOption := by
  cases v <;> simp [items, size, characters, Except.toOption, String.length_toList]

end FiveStage.Json
