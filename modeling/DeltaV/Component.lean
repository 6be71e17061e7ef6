import DeltaV.Types

/-!
# The base of every component

A component has a name, an identifier, and a 32-bit count of the errors it has recorded. Its health
is read off the count against two thresholds.
-/

namespace DeltaV

/-- The health a component reports. -/
inductive HealthStatus where
  | NOMINAL
  | WARNING
  | CRITICAL_FAILURE
deriving DecidableEq, Repr

/-- The state that every component inherits. -/
structure Component where
  name : Text
  id : UInt32
  error_count : UInt32
deriving DecidableEq, Repr

namespace Component

/-- The error count at which a component reports a warning. -/
def WARNING_THRESHOLD : UInt32 := 3

/-- The error count at which a component reports a critical failure. -/
def CRITICAL_THRESHOLD : UInt32 := 10

/-- A component without errors. -/
def create (comp_name : Text) (comp_id : UInt32) : Component := ⟨comp_name, comp_id, 0⟩

/-- The health that the error count stands for, unless a component overrides it. -/
def reportHealth (c : Component) : HealthStatus :=
  if CRITICAL_THRESHOLD ≤ c.error_count then HealthStatus.CRITICAL_FAILURE
  else if WARNING_THRESHOLD ≤ c.error_count then HealthStatus.WARNING
  else HealthStatus.NOMINAL

/-- Counts one error. -/
def recordError (c : Component) : Component := { c with error_count := c.error_count + 1 }

/-- Clears the count after a restart. -/
def clearErrors (c : Component) : Component := { c with error_count := 0 }

/-- An error is counted. -/
@[simp] theorem recordError_error_count (c : Component) :
    c.recordError.error_count = c.error_count + 1 := rfl

end Component

end DeltaV
