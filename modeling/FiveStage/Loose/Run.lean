import FiveStage.Loose.Cycle
import FiveStage.Machine

/-!
# Runs of loose states

Runs of cycles, copies of a loose state, and what can be asked about its pipeline.

Main statements:
* `copy_of_plain`: a state without attributes of its own is copied as it is;
* `runFor_zero`: a run without cycles changes nothing.
-/

namespace FiveStage.Loose

namespace State

/-! ## Completion -/

/-- All instructions are completed and the pipeline is empty. -/
def isComplete (s : State) : Except Misuse Bool := do
  if s.completed.same (.int (← s.total)) then return (← s.slotItems).all Item.isEmpty else return false

/-! ## Copies -/

/-- Why a copy cannot be made of what it is made of. -/
def contentMisuse? (s : State) : Option Misuse :=
  (s.attributes.lookup "__getstate__").map fun v => .called v.kindName

/-- Why the second way in which anything is copied does not make a copy. It looks for named slots first. -/
def slotsMisuse? (s : State) : Option Misuse :=
  if (s.attributes.lookup "__slots__").any Json.isTruthy then some .slotted else s.contentMisuse?

/-- Why the ways in which anything is copied do not make a copy. A missing document leaves it to the next way. -/
def wayMisuse? (s : State) : Option Misuse :=
  match s.attributes.lookup "__reduce_ex__", s.attributes.lookup "__reduce__" with
  | none, _ => s.contentMisuse?
  | some .null, none => s.slotsMisuse?
  | some .null, some v => some (if v.isTruthy then .called v.kindName else .uncopied)
  | some v, _ => some (.called v.kindName)

/-- Why no copy of the state can be made. The ways of its own come first. -/
def copyMisuse? (s : State) : Option Misuse :=
  match s.attributes.lookup "copy", s.attributes.lookup "__deepcopy__" with
  | some v, _ => some (.called v.kindName)
  | none, none | none, some .null => s.wayMisuse?
  | none, some v => some (.called v.kindName)

/-- A copy of the state. -/
def copy (s : State) : Except Misuse State :=
  match s.copyMisuse? with
  | none => .ok s
  | some misuse => .error misuse

theorem copy_of_plain {s : State} (h : s.attributes = []) : s.copy = .ok s := by
  simp [copy, copyMisuse?, wayMisuse?, contentMisuse?, h]

/-! ## Questions -/

/-- The hazard of a load or store that accesses the memory while an instruction is fetched, noticed in a cycle or else
in the cycle of its own fetch. -/
def structuralHazards (s : State) (cycle? : Option Json) : Except Misuse (List Hazard) := do
  let slots ← s.pipeline.asked "pipeline" "get"
  let access := (slots.get .memory).item
  let fetched := (slots.get .fetch).item
  if access.isEmpty || fetched.isEmpty then return []
  match s.tracked[← access.asked "opcode"]? with
  | none => return []
  | some t =>
    if !t.code.opcode.isMemory then return []
    let pipeline : Pipeline Placed := { memory := some ⟨0, t.code, 0⟩, fetch := s.placed? (← fetched.asked "raw") }
    return (FiveStage.Hazard.structuralHazards pipeline none).map fun h => Hazard.at h (cycle?.getD t.fetched)

/-- There is only one such document, however often it is written: the missing one, a truth value, a small integer, the
empty text, or a text of one of the first 256 characters. -/
def isShared : Json → Bool
  | .null | .bool _ => true
  | .int n => -5 ≤ n && n ≤ 256
  | .string text =>
    match text.toList with
    | [] => true
    | [c] => c.toNat ≤ 0xff
    | _ => false
  | _ => false

/-- Two occupants are one: the same instruction of the program, or documents that came from the same place. -/
def isOne (a b : Occupant) : Bool :=
  match a.item, b.item with
  | .own i, .own j => i = j
  | .document v, .document w => (isShared v && v.compact = w.compact) || (a.origin.isSome && a.origin = b.origin)
  | _, _ => false

/-- How many cycles an instruction would wait for the load that is being executed: one if it reads what the load
writes. -/
def stallEstimate (s : State) (waiting : Occupant) : Except Misuse Nat := do
  let producer := (← s.pipeline.asked "pipeline" "get").get .execute
  if producer.item.isEmpty || isOne producer waiting then return 0
  match s.placed? (← producer.item.asked "opcode") with
  | none => return 0
  | some load =>
    if load.code.opcode ≠ .lw then return 0
    match s.placed? (← waiting.item.asked "opcode") with
    | none => return 0
    | some i => return FiveStage.Hazard.stallEstimate i { execute := some load }

/-- The place that a key denotes in a document whose items keep their places. The characters of a text do not. -/
def origin? (key : Json) : Json → Option Nat
  | .array items => (Json.position "list" items.length key).toOption
  | .object fields => fields.findIdx? fun (name, _) => key.same (.string name)
  | _ => none

/-- What stands for the instruction at the place that a key denotes. -/
def instruction (s : State) (key : Json) : Except Misuse Occupant :=
  s.instructions.use "instructions"
    (fun _ => return { item := .own (← Json.position "list" s.tracked.size key) })
    fun v => return { item := .document (← v.item key), origin := origin? key v }

end State

/-! ## Runs -/

/-- At most so many cycles, until the program is complete or the clock is not below a limit. -/
def runFor : Nat → Json → Work Unit
  | 0, _ => return ()
  | bound + 1, limit => do
    if !(← (← get).isComplete) then
      if ← (← get).cycle.less limit then
        cycle
        runFor bound limit

/-- How many cycles there can be until nothing is left to do: an instruction leaves the pipeline after one cycle for
each stage, or waits for one that leaves it. -/
def State.cyclesLeft (s : State) : Nat :=
  (s.tracked.size + Stage.depth) * Stage.depth

/-- How many cycles a run has at most. A clock that is a fraction can be too large to go on before it reaches the limit,
and the program is completed all the same; a clock that is no number ends the run. -/
def State.cyclesTo (s : State) (limit : Json) : Nat :=
  match Number.ofJson? limit, Number.ofJson? s.cycle with
  | some limit, some now => limit.steps now + s.cyclesLeft
  | _, _ => s.cyclesLeft

/-- Cycles until the program is complete or the clock is not below a limit. -/
def run (limit : Json) : Work Unit := do
  runFor ((← get).cyclesTo limit) limit

theorem runFor_zero (limit : Json) (s : State) : (runFor 0 limit).run s = .ok () s := rfl

end FiveStage.Loose
