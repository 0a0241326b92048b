/-!
# Locks

A value behind a lock. A holder that fails leaves the lock marked and the value as it
was at the failure; the next holder goes on with that value, whatever the mark says.
-/

namespace FlowRules

/-- A value behind a lock, and whether a holder failed. -/
structure Lock (α : Type) where
  value : α
  failed : Bool := false

namespace Lock

variable {α : Type}

/-- The lock after a holder has changed the value. -/
def update (l : Lock α) (f : α → α) : Lock α := { l with value := f l.value }

/-- The lock after a holder has changed the value and failed. -/
def updateAndFail (l : Lock α) (f : α → α) : Lock α := ⟨f l.value, true⟩

end Lock

end FlowRules
