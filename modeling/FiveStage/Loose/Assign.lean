import FiveStage.Loose.State

/-!
# Giving values to parts

The parts of a state have names, under which they can be given any document: what a state holds, what it can be asked
for, and what it has in common with everything else. A list of hazards or of log entries and an object for the pipeline
become what such a part holds; any other document stands for the part as a whole. A table of parts replaces all of them,
and what is not in the table is missing, unless it is a plain value from the beginning.

Main statements:
* `put_cycle`: the clock can be anything;
* `assignAll_nil`: nothing given changes nothing.
-/

namespace FiveStage.Loose

/-- The name that no part can have. -/
def ownerName : String := "self"

/-- The names of what a state can be asked for, and of what it has in common with everything else. -/
def attributeNames : List String :=
  ["copy", "occupied", "find_memory", "__annotations__", "__dataclass_fields__", "__dataclass_params__", "__delattr__",
    "__dir__", "__doc__", "__eq__", "__format__", "__ge__", "__getattribute__", "__getstate__", "__gt__", "__hash__",
    "__init__", "__init_subclass__", "__le__", "__lt__", "__match_args__", "__module__", "__ne__", "__new__",
    "__reduce__", "__reduce_ex__", "__repr__", "__setattr__", "__sizeof__", "__str__", "__subclasshook__"]

/-- The document as the items of a part, if it is a list. -/
def Part.ofItems {α : Type} (wrap : Json → α) : Json → Part (List α)
  | .array items => .own (items.map wrap)
  | v => .document v

/-- The document as slots, if it is an object. -/
def slotsOf : Json → Part Slots
  | .object fields => .own (fields.map fun (name, v) => (.name name, { item := .document v }))
  | v => .document v

namespace State

/-- The state with a document for a part that it holds. -/
def put? (s : State) (name : String) (v : Json) : Option State :=
  match name with
  | "current_cycle" => some { s with cycle := v }
  | "pc" => some { s with pc := v }
  | "instructions" => some { s with instructions := .document v, pipeline := s.pipeline.map Slots.forget }
  | "registers" => some { s with registers := .document v }
  | "memory" => some { s with memory := .document v }
  | "pipeline" => some { s with pipeline := slotsOf v }
  | "hazards" => some { s with hazards := .ofItems .document v }
  | "is_running" => some { s with running := v }
  | "is_paused" => some { s with paused := v }
  | "completed_instructions" => some { s with completed := v }
  | "stall_cycles" => some { s with stalls := v }
  | "forwarding_enabled" => some { s with forwarding := v }
  | "branch_prediction_enabled" => some { s with prediction := v }
  | "pipeline_log" => some { s with log := .ofItems id v }
  | _ => none

/-- The state with a document for something that it can be asked for. -/
def putAttribute (s : State) (name : String) (v : Json) : State :=
  { s with attributes := Json.putField name v s.attributes }

/-- The state with a document for a part of any kind. -/
def put (s : State) (name : String) (v : Json) : State :=
  (s.put? name v).getD (s.putAttribute name v)

/-- The state without its parts, but for the plain values from the beginning. -/
def bare (s : State) : State :=
  { s with
    cycle := .int 0
    pc := .int Program.baseAddress
    completed := .int 0
    stalls := .int 0
    running := .bool false
    paused := .bool false
    forwarding := .bool true
    prediction := .bool false
    instructions := .absent
    registers := .absent
    memory := .absent
    pipeline := .absent
    hazards := .absent
    log := .absent
    attributes := [] }

/-- The state with the parts of a table in place of its own. -/
def replaceTable (s : State) (fields : List (String × Json)) : State :=
  fields.foldl (fun s (name, v) => s.put name v) s.bare

/-- The part with a name is missing. -/
def isMissing (s : State) : String → Bool
  | "instructions" => s.instructions.isAbsent
  | "registers" => s.registers.isAbsent
  | "memory" => s.memory.isAbsent
  | "pipeline" => s.pipeline.isAbsent
  | "hazards" => s.hazards.isAbsent
  | "pipeline_log" => s.log.isAbsent
  | _ => false

/-- The state with a document for the part with a name, unless there is none or it takes no such document. -/
def assign (s : State) (name : String) (v : Json) : Except Refusal State :=
  match name, v with
  | "__class__", v => .error (.kind v.kindName)
  | "__dict__", .object fields => .ok (s.replaceTable fields)
  | "__dict__", v => .error (.table v.kindName)
  | "__weakref__", _ => .error .reference
  | name, v =>
    if s.isMissing name then .error (.unknown name)
    else
      match s.put? name v with
      | some t => .ok t
      | none =>
        if attributeNames.contains name || (s.attributes.lookup name).isSome then .ok (s.putAttribute name v)
        else .error (.unknown name)

/-- The state with documents for the parts with some names, one after another, until one is refused. -/
def assignEach (s : State) : List (String × Json) → Except (Interrupted Refusal State) State
  | [] => .ok s
  | (name, v) :: rest =>
    match s.assign name v with
    | .error refusal => .error ⟨refusal, s⟩
    | .ok t => t.assignEach rest

/-- The state with documents for the parts with some names, unless a name is not to be given at all. -/
def assignAll (s : State) (fields : List (String × Json)) : Except (Interrupted Refusal State) State :=
  if fields.any (·.1 = ownerName) then .error ⟨.owner, s⟩ else s.assignEach fields

theorem put_cycle (s : State) (v : Json) : s.put "current_cycle" v = { s with cycle := v } := rfl

theorem assignAll_nil (s : State) : s.assignAll [] = .ok s := rfl

end State

end FiveStage.Loose
