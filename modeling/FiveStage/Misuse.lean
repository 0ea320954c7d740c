import FiveStage.Decimal

/-!
# Misuse

What cannot be done with a value because of its kind or its size. Kinds are told by their names.
-/

namespace FiveStage

/-- Something that a value was not made for. -/
inductive Misuse
  /-- It is called. -/
  | called (kind : String)
  /-- An operation does not go together with two kinds. -/
  | operands (sign left right : String)
  /-- Only its own kind can be put behind it. -/
  | joined (kind other : String)
  /-- It says how often a text is repeated. -/
  | repeated (count : String)
  /-- It has no order with another value. -/
  | compared (sign left right : String)
  /-- It is used as a place in a list or in a text. -/
  | place (within kind : String)
  /-- It is used as the name of a field. -/
  | unhashable (kind : String)
  /-- It has no items that could be looked up. -/
  | noItems (kind : String)
  /-- Its items cannot be replaced. -/
  | fixedItems (kind : String)
  /-- It cannot be gone through item by item. -/
  | notIterable (kind : String)
  /-- It has no length. -/
  | noLength (kind : String)
  /-- It cannot be set into a column. -/
  | noColumn (kind : String)
  /-- It is written as a number. -/
  | notReal (kind : String)
  /-- It lacks something that it is asked for. -/
  | lacks (kind name : String)
  /-- It has no field with a name. -/
  | noField (name : String)
  /-- It has no item at a place. -/
  | noPlace (kind : String)
  /-- The number of a place is too large. -/
  | farPlace
  /-- There is no way to copy it. -/
  | uncopied
  /-- It names its slots, but has no way to tell what they hold. -/
  | slotted
  /-- An integer is beyond all finite values. -/
  | tooLarge
  /-- A quotient of integers is beyond all finite values. -/
  | quotientTooLarge
  /-- An infinite number is no integer. -/
  | infinite
  /-- An undefined number is no integer. -/
  | undefined
  /-- An integer has too many digits to be written. -/
  | tooLong
  deriving DecidableEq, Repr

namespace Misuse

/-- The misuse in words. -/
def message : Misuse → String
  | called kind => "'" ++ kind ++ "' object is not callable"
  | operands sign left right =>
    "unsupported operand type(s) for " ++ sign ++ ": '" ++ left ++ "' and '" ++ right ++ "'"
  | joined kind other => "can only concatenate " ++ kind ++ " (not \"" ++ other ++ "\") to " ++ kind
  | repeated count => "can't multiply sequence by non-int of type '" ++ count ++ "'"
  | compared sign left right =>
    "'" ++ sign ++ "' not supported between instances of '" ++ left ++ "' and '" ++ right ++ "'"
  | place within kind =>
    if within = "str" then "string indices must be integers, not '" ++ kind ++ "'"
    else within ++ " indices must be integers or slices, not " ++ kind
  | unhashable kind => "unhashable type: '" ++ kind ++ "'"
  | noItems kind => "'" ++ kind ++ "' object is not subscriptable"
  | fixedItems kind => "'" ++ kind ++ "' object does not support item assignment"
  | notIterable kind => "'" ++ kind ++ "' object is not iterable"
  | noLength kind => "object of type '" ++ kind ++ "' has no len()"
  | noColumn kind => "unsupported format string passed to " ++ kind ++ ".__format__"
  | notReal kind => "%d format: a real number is required, not " ++ kind
  | lacks kind name => "'" ++ kind ++ "' object has no attribute '" ++ name ++ "'"
  | noField name => name
  | noPlace kind => (if kind = "str" then "string" else kind) ++ " index out of range"
  | farPlace => "cannot fit 'int' into an index-sized integer"
  | uncopied => "un(deep)copyable object of type <class 'models.SimulationState'>"
  | slotted => "a class that defines __slots__ without defining __getstate__ cannot be pickled"
  | tooLarge => "int too large to convert to float"
  | quotientTooLarge => "integer division result too large for a float"
  | infinite => "cannot convert float infinity to integer"
  | undefined => "cannot convert float NaN to integer"
  | tooLong => (⟨⟩ : Decimal.TooLong).message

end Misuse

/-- What has come to a value goes on with it. -/
theorem bind_of_eq_ok {ε α β : Type} {x : Except ε α} {a : α} (h : x = .ok a) (f : α → Except ε β) :
    (x >>= f) = f a := by
  rw [h]
  rfl

end FiveStage
