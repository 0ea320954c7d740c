import FiveStage.Isa

/-!
# The pipeline

One slot for each stage, each empty or occupied.

Main statements:
* `get_set`: a slot holds what was last put there, and the others keep what they held;
* `isEmpty_iff`: a pipeline is empty if all its slots are.
-/

namespace FiveStage

/-- What each stage holds, if anything. -/
structure Pipeline (α : Type) where
  fetch : Option α := none
  decode : Option α := none
  execute : Option α := none
  memory : Option α := none
  writeBack : Option α := none
  deriving DecidableEq, Repr

namespace Pipeline

variable {α β : Type}

/-- The slot of a stage. -/
def get (p : Pipeline α) : Stage → Option α
  | .fetch => p.fetch
  | .decode => p.decode
  | .execute => p.execute
  | .memory => p.memory
  | .writeBack => p.writeBack

/-- The pipeline with something else in the slot of a stage. -/
def set (p : Pipeline α) (stage : Stage) (slot : Option α) : Pipeline α :=
  match stage with
  | .fetch => { p with fetch := slot }
  | .decode => { p with decode := slot }
  | .execute => { p with execute := slot }
  | .memory => { p with memory := slot }
  | .writeBack => { p with writeBack := slot }

/-- The slots in the order of the stages. -/
def toList (p : Pipeline α) : List (Option α) :=
  Stage.all.map p.get

/-- What the occupied slots hold, in the order of the stages. -/
def occupants (p : Pipeline α) : List α :=
  p.toList.filterMap id

/-- No slot is occupied. -/
def isEmpty (p : Pipeline α) : Bool :=
  p.toList.all Option.isNone

/-- The pipeline with every occupant replaced by its image, if it has one. -/
def bind (p : Pipeline α) (f : α → Option β) : Pipeline β :=
  ⟨p.fetch.bind f, p.decode.bind f, p.execute.bind f, p.memory.bind f, p.writeBack.bind f⟩

@[simp]
theorem get_set (p : Pipeline α) (s t : Stage) (slot : Option α) :
    (p.set s slot).get t = if t = s then slot else p.get t := by
  cases s <;> cases t <;> rfl

@[simp]
theorem get_bind (p : Pipeline α) (f : α → Option β) (s : Stage) : (p.bind f).get s = (p.get s).bind f := by
  cases s <;> rfl

theorem isEmpty_iff (p : Pipeline α) : p.isEmpty = true ↔ ∀ s, p.get s = none := by
  simp only [isEmpty, toList, List.all_map, List.all_eq_true]
  constructor
  · intro h s
    simpa using h s (Stage.mem_all s)
  · intro h s _
    simp [h s]

theorem ext_get {p q : Pipeline α} (h : ∀ s, p.get s = q.get s) : p = q := by
  have hf := h .fetch
  have hd := h .decode
  have he := h .execute
  have hm := h .memory
  have hw := h .writeBack
  cases p
  cases q
  simp_all [get]

end Pipeline

end FiveStage
