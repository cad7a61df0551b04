/-
  Connectivity.Lease — the bookkeeping of a DHCP lease. The platform speaks the protocol; here it
  is decided once a second whether a lease has to be requested, renewed (from T1), rebound (from
  T2) or, at its end or after a refusal, recovered. A phase that failed is tried again only after
  the retry interval; recovery is never put off. Lease times are in seconds, clock readings in
  nanoseconds.
-/

import Connectivity.Error

namespace Connectivity

structure Timers where
  lease : UInt32 := 0
  /-- The time T1. -/
  renewal : UInt32 := 0
  /-- The time T2. -/
  rebinding : UInt32 := 0
  deriving DecidableEq, Repr

namespace Timers

/-- The shortest lease with room for T1 < T2 < lease in whole seconds. -/
def shortest : UInt32 := 3

/-- The server's timers if they increase, else half and seven eighths of the lease. -/
def ofServer (lease renewal rebinding : UInt32) : Except Error Timers :=
  if lease < shortest then .error (.leaseTooShort lease)
  else if 0 < renewal ∧ renewal < rebinding ∧ rebinding < lease then
    .ok { lease, renewal, rebinding }
  else
    .ok { lease, renewal := (lease.toUInt64 / 2).toUInt32,
          rebinding := (lease.toUInt64 * 7 / 8).toUInt32 }

/-- Timers of a lease that the server withdrew. -/
def withdrawn : Timers := {}

def isWithdrawn (t : Timers) : Bool := t.lease = 0

end Timers

/-- The exchange that an attempt belongs to. -/
inductive Phase where
  | request
  | renew
  | rebind
  deriving DecidableEq, Repr

def Renewal.phase : Renewal → Phase
  | .unicast => .renew
  | .rebind => .rebind

/-- What a tick should do about a lease. -/
inductive Due where
  | idle
  | request
  | renew (mode : Renewal)
  | recover
  deriving DecidableEq, Repr

/-- The clock readings of the latest failures since the latest lease. -/
structure Failures where
  request : Option Nat := none
  renew : Option Nat := none
  rebind : Option Nat := none
  deriving DecidableEq, Repr

namespace Failures

def at? (f : Failures) : Phase → Option Nat
  | .request => f.request
  | .renew => f.renew
  | .rebind => f.rebind

def record (f : Failures) (now : Nat) : Phase → Failures
  | .request => { f with request := some now }
  | .renew => { f with renew := some now }
  | .rebind => { f with rebind := some now }

@[simp] theorem at?_record (f : Failures) (now : Nat) (p q : Phase) :
    (f.record now p).at? q = if p = q then some now else f.at? q := by
  cases p <;> cases q <;> rfl

end Failures

/-- The client's side of one session. -/
structure Client where
  session : SessionId
  /-- None until a request succeeds. -/
  lease : Option Timers := none
  updatedAt : Nat := 0
  failures : Failures := {}
  deriving DecidableEq, Repr

namespace Client

def granted (c : Client) (timers : Timers) (now : Nat) : Client :=
  { c with lease := some timers, updatedAt := now, failures := {} }

/-- Remembers a failed attempt; a refusal also withdraws the lease. -/
def failed (c : Client) (phase : Phase) (now : Nat) (failure : Option LeaseFailure) : Client :=
  { c with
    failures := c.failures.record now phase
    lease := if failure = some .nak then c.lease.map (fun _ => .withdrawn) else c.lease }

@[simp] theorem isSome_lease_failed (c : Client) (phase : Phase) (now : Nat) (failure : Option LeaseFailure) :
    (c.failed phase now failure).lease.isSome = c.lease.isSome := by
  unfold failed
  split
  · exact Option.isSome_map
  · rfl

/-- Drops the lease ahead of a fresh request. -/
def forget (c : Client) : Client := { c with lease := none }

/-- Whether a phase may be tried: it has not failed, or at least `retry` ago. -/
def mayTry (c : Client) (phase : Phase) (now retry : Nat) : Bool :=
  match c.failures.at? phase with
  | some failed => decide (retry ≤ now - failed)
  | none => true

def nanos (seconds : UInt32) : Nat := second * seconds.toNat

def due (c : Client) (now retry : Nat) : Due :=
  match c.lease with
  | none => if c.mayTry .request now retry then .request else .idle
  | some timers =>
    let elapsed := now - c.updatedAt
    if timers.isWithdrawn then .recover
    else if nanos timers.lease ≤ elapsed then .recover
    else if nanos timers.rebinding ≤ elapsed then
      if c.mayTry .rebind now retry then .renew .rebind else .idle
    else if nanos timers.renewal ≤ elapsed then
      if c.mayTry .renew now retry then .renew .unicast else .idle
    else .idle

end Client

end Connectivity
