/-!
# Log lines

What the parts of the program report while they work, with the importance of each line.

Main statement: `shows_of_le`, by which a log that shows a level shows all more important ones.
-/

namespace FiveStage

/-- How important a line is. -/
inductive LogLevel
  | debug
  | info
  | warning
  | error
  | critical
  deriving DecidableEq, Repr

namespace LogLevel

/-- The name of a level. -/
def name : LogLevel → String
  | debug => "DEBUG"
  | info => "INFO"
  | warning => "WARNING"
  | error => "ERROR"
  | critical => "CRITICAL"

/-- The rank of a level. -/
def rank : LogLevel → Nat
  | debug => 0
  | info => 1
  | warning => 2
  | error => 3
  | critical => 4

/-- All levels, the least important first. -/
def all : List LogLevel :=
  [debug, info, warning, error, critical]

/-- The level with a name. -/
def ofName? (s : String) : Option LogLevel :=
  all.find? (·.name = s)

/-- A log that begins at a level shows a line of another level. -/
def shows (threshold level : LogLevel) : Bool :=
  threshold.rank ≤ level.rank

theorem shows_of_le {threshold a b : LogLevel} (h : threshold.shows a = true) (hab : a.rank ≤ b.rank) :
    threshold.shows b = true := by
  simp only [shows, decide_eq_true_eq] at h ⊢
  exact Nat.le_trans h hab

end LogLevel

/-- A line of the log: its level, the part of the program that it comes from, and its text. -/
structure LogLine where
  level : LogLevel
  origin : String
  text : String
  deriving DecidableEq, Repr

/-- The line as it is written. -/
def LogLine.render (l : LogLine) : String :=
  l.level.name ++ ":" ++ l.origin ++ ":" ++ l.text

end FiveStage
