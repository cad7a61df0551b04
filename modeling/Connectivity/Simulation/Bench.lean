/-
  Connectivity.Simulation.Bench — a control plane on a simulated board: the network and the store
  behind their faults, a clock that is set by hand, and events from outside. A step of the world
  gives the events that are meant for the control plane, which then handles them.
-/

import Connectivity.ControlPlane.Lifetime
import Connectivity.Simulation.Faults
import Connectivity.Simulation.Network

namespace Connectivity.Simulation

/-- A simulated network behind its faults. -/
abbrev Board := Faulty Method PlatformError Network

/-- A volatile store behind its faults. -/
abbrev Shelf := Faulty StoreMethod StoreError VolatileStore

namespace Board

def ofInterfaces (interfaces : List Interface) : Board :=
  { inner := Network.ofInterfaces interfaces }

def platform : Platform Board := faultyPlatform Network.platform

/-- Registers an observer for the events of an interface. -/
def observe (name : String) : Action Board Unit :=
  Faulty.behind .subscribe (Network.register .observer name)

end Board

namespace Shelf

def operations : Store Shelf := faultyStore VolatileStore.operations

end Shelf

/-! ## Memory -/

/-- The bytes of one slot. -/
def slotBytes : Nat := 12

/-- The largest allocation. -/
def allocationMax : Nat := 0x7fffffffffffffff

/-- The largest table that memory has room for. -/
def memorySlots : Nat := 0x100000000

def memory : Roster.Memory where
  refusal? size :=
    if allocationMax < size * slotBytes then some .capacityOverflow
    else if memorySlots < size then some .outOfMemory
    else none
  roomy size hsize := by
    have hbytes : ¬ allocationMax < size * slotBytes := by
      unfold allocationMax slotBytes
      omega
    have hslots : ¬ memorySlots < size := by
      unfold memorySlots
      omega
    rw [if_neg hbytes, if_neg hslots]

/-! ## Clock -/

/-- The clock that is set by hand counts milliseconds in one word of 64 bits. -/
def clockSize : Nat := 0x10000000000000000

def clockMillis (e : Env Board) : Nat := e.now / millisecond

def setClock (ms : Nat) (e : Env Board) : Env Board := { e with now := ms % clockSize * millisecond }

def advance (ms : Nat) (e : Env Board) : Env Board := setClock (clockMillis e + ms) e

/-! ## Events -/

/-- Events for the control plane. -/
abbrev Mail := List (String × Event)

def onNetwork (f : Network → Network) (e : Env Board) : Env Board :=
  { e with platform := { e.platform with inner := f e.platform.inner } }

/-- An event from outside. -/
def occur (name : String) (event : Event) (e : Env Board) : Mail × Env Board :=
  let (isMine, n) := e.platform.inner.occur name event
  (if isMine then [(name, event)] else [], onNetwork (fun _ => n) e)

/-- A tick for every interface that anyone listens to. -/
def tickAll : List String → Env Board → Mail × Env Board
  | [], e => ([], e)
  | name :: names, e =>
    let (isMine, n) := e.platform.inner.deliver name .tick
    let (mail, e) := tickAll names (onNetwork (fun _ => n) e)
    (if isMine then (name, .tick) :: mail else mail, e)

def tick (e : Env Board) : Mail × Env Board := tickAll e.platform.inner.listened e

/-- Announces a stop as the control plane would; the event for it, if it arrived. -/
def announceStop (name : String) (e : Env Board) : Except PlatformError Mail × Env Board :=
  match e.perform (Board.platform.announceStop name) with
  | (.ok true, e) => (.ok [(name, .ifDownPre)], e)
  | (.ok false, e) => (.ok [], e)
  | (.error err, e) => (.error err, e)

/-- A control plane on a simulated board. -/
abbrev Plane := ControlPlane Board Shelf

abbrev PlaneState := ControlPlane.State Board Shelf

/-- A step of the world around a control plane, with the events it gives rise to handled. -/
def onWorld {α : Type} (M : Plane) (step : Env Board → (α × Mail) × Env Board) (s : PlaneState) :
    α × PlaneState :=
  let ((a, mail), env) := step s.env
  (a, M.receiveAll mail { s with env })

end Connectivity.Simulation
