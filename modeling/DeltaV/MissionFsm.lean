import DeltaV.Types

/-!
# The mission state machine's command policy

Which class of command is legal in which mission state.
-/

namespace DeltaV

/-- The class of a command. -/
inductive OpClass where
  | HOUSEKEEPING
  | OPERATIONAL
  | RESTRICTED
deriving DecidableEq, Repr

/-- The mission states, in the order of their numbers. -/
inductive MissionState where
  | BOOT
  | NOMINAL
  | DEGRADED
  | SAFE_MODE
  | EMERGENCY
deriving DecidableEq, Repr

/-- The number of a mission state. -/
def MissionState.toNat : MissionState → ℕ
  | BOOT => 0
  | NOMINAL => 1
  | DEGRADED => 2
  | SAFE_MODE => 3
  | EMERGENCY => 4

namespace MissionFsm

/-- Whether a command of the class is legal in the state with the given number. -/
def isAllowed (state_raw : UInt8) (cls : OpClass) : Bool :=
  if state_raw = 0 then decide (cls = OpClass.HOUSEKEEPING)
  else if state_raw = 1 then true
  else if state_raw = 2 then
    decide (cls = OpClass.HOUSEKEEPING ∨ cls = OpClass.OPERATIONAL)
  else if state_raw = 3 then decide (cls = OpClass.HOUSEKEEPING)
  else false

/-- The name of the state with the given number. -/
def stateName (state_raw : UInt8) : Text :=
  if state_raw = 0 then ascii "BOOT"
  else if state_raw = 1 then ascii "NOMINAL"
  else if state_raw = 2 then ascii "DEGRADED"
  else if state_raw = 3 then ascii "SAFE_MODE"
  else if state_raw = 4 then ascii "EMERGENCY"
  else ascii "UNKNOWN"

end MissionFsm

end DeltaV
