import FiveStage.Json

/-!
# Settings

What a user can set: whether results are forwarded, whether branches are predicted, and how fast the machine runs by
itself. The speed is kept as it was given and becomes an integer only when the time between two cycles is asked for.

Main statement: `interval_bounds`, by which that time is always between 100 and 1000 milliseconds.
-/

namespace FiveStage

/-- Why a speed is no integer. -/
inductive SpeedError
  | malformed (text : String)
  | tooLong (digits : Nat)
  | infinite
  | undefined
  | notNumber (kind : String)
  deriving DecidableEq, Repr

/-- The reason in words. A text is shown up to a length. -/
def SpeedError.message : SpeedError → String
  | malformed text =>
    "invalid literal for int() with base 10: " ++ String.ofList ((Text.quoted text.toList).take 200)
  | tooLong digits => Numeral.tooLongMessage digits
  | infinite => "cannot convert float infinity to integer"
  | undefined => "cannot convert float NaN to integer"
  | notNumber kind => "int() argument must be a string, a bytes-like object or a real number, not '" ++ kind ++ "'"

namespace Json

/-- The value as an integer: a fraction loses its places, a text is read, and a truth value counts as zero or one. -/
def toInt : Json → Except SpeedError Int
  | int n => .ok n
  | bool b => .ok (if b then 1 else 0)
  | real x =>
    match x.truncate? with
    | some n => .ok n
    | none => .error .infinite
  | undefined => .error .undefined
  | string s =>
    match Numeral.read s.toList with
    | .ok n => .ok n
    | .error .malformed => .error (.malformed s)
    | .error (.tooLong digits) => .error (.tooLong digits)
  | v => .error (.notNumber v.kindName)

end Json

/-- The settings. -/
structure Settings where
  forwarding : Bool := true
  prediction : Bool := false
  speed : Json := .int 5
  stepMode : Bool := false

namespace Settings

/-- The milliseconds between two cycles at a speed; below 1 and above 10 a speed changes nothing any more. -/
def intervalOf (speed : Int) : Int :=
  1100 - min (max speed 1) 10 * 100

/-- The milliseconds between two cycles. -/
def interval (s : Settings) : Except SpeedError Int :=
  s.speed.toInt.map intervalOf

theorem interval_bounds (speed : Int) : 100 ≤ intervalOf speed ∧ intervalOf speed ≤ 1000 := by
  simp only [intervalOf]
  omega

/-- The settings as a document. -/
def document (s : Settings) : Json :=
  .object [
    ("forwarding_enabled", .bool s.forwarding),
    ("branch_prediction_enabled", .bool s.prediction),
    ("speed", s.speed),
    ("step_mode", .bool s.stepMode)]

end Settings

end FiveStage
