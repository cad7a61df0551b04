/-
  Connectivity.Latch — lets one waiter through. A trip before the wait is kept, and a wait uses
  it up. A stop waits at one for the event ahead of the teardown.
-/

namespace Connectivity

structure Latch where
  tripped : Bool := false
  deriving DecidableEq, Repr

namespace Latch

def trip (_ : Latch) : Latch := ⟨true⟩

def rearm (_ : Latch) : Latch := ⟨false⟩

/-- Whether the latch was tripped, or else the wait ran out; it is armed again after it. -/
def await (l : Latch) : Bool × Latch := (l.tripped, ⟨false⟩)

end Latch

end Connectivity
