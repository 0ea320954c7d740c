import FiveStage.Files
import FiveStage.RegisterName
import FiveStage.Report
import FiveStage.Settings

/-!
# Faults

Why something that was asked for was not done: the causes that the parts of the program have, side by side.

Main statement: `Refusal.message_unknown`, the words for a part that a state does not have.
-/

namespace FiveStage

/-- Why a part of a state is not given a value: there is no such part, the name belongs to the machine itself, or the
part does not take such a value. -/
inductive Refusal
  | unknown (name : String)
  | owner
  | kind (given : String)
  | table (given : String)
  | reference
  deriving DecidableEq, Repr

/-- The reason in words. -/
def Refusal.message : Refusal → String
  | unknown name => "SimulationState has no field " ++ Text.quote name
  | owner => "PipelineEngine.set_state() got multiple values for argument 'self'"
  | kind given => "__class__ must be set to a class, not '" ++ given ++ "' object"
  | table given => "__dict__ must be set to a dictionary, not a '" ++ given ++ "'"
  | reference => "attribute '__weakref__' of 'SimulationState' objects is not writable"

theorem Refusal.message_unknown (name : String) :
    (unknown name).message = "SimulationState has no field " ++ Text.quote name := rfl

/-- Why something that was asked for was not done. -/
inductive Fault
  | register (cause : RegisterName.TooLong)
  | misuse (cause : Misuse)
  | report (cause : ReportFault)
  | speed (cause : SpeedError)
  | path (cause : PathFault)
  | refused (cause : Refusal)
  | unknownSample (name : String)
  deriving DecidableEq, Repr

/-- The reason in words. -/
def Fault.message : Fault → String
  | register cause => cause.message
  | misuse cause => cause.message
  | report cause => cause.message
  | speed cause => cause.message
  | path cause => cause.message
  | refused cause => cause.message
  | unknownSample name => Text.quote name

/-- A register that cannot be named is a fault. -/
instance : MonadLift (Except RegisterName.TooLong) (Except Fault) where
  monadLift x := x.mapError .register

/-- What is misused is a fault. -/
instance : MonadLift (Except Misuse) (Except Fault) where
  monadLift x := x.mapError .misuse

/-- A report that cannot be made is a fault. -/
instance : MonadLift (Except ReportFault) (Except Fault) where
  monadLift x := x.mapError .report

end FiveStage
