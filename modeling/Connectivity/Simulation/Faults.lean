/-
  Connectivity.Simulation.Faults — operations that are made to fail. Each operation has a queue
  of faults; the first lets a number of calls pass and then fails one call, which does not reach
  what is behind it.
-/

import Connectivity.Platform
import Connectivity.Store

namespace Connectivity.Simulation

/-- An error that strikes after `skip` calls have passed. -/
structure Fault (ε : Type) where
  error : ε
  skip : Nat := 0
  deriving DecidableEq, Repr

/-- A state behind operations that may be made to fail, with their queues of faults. -/
structure Faulty (κ ε σ : Type) where
  inner : σ
  faults : Table κ (List (Fault ε)) := .empty
  deriving DecidableEq, Repr

namespace Faulty

variable {κ ε σ α : Type} [DecidableEq κ]

def queue (s : Faulty κ ε σ) (k : κ) : List (Fault ε) := (s.faults.find? k).getD []

/-- Appends a fault to the queue of an operation. -/
def push (k : κ) (f : Fault ε) (s : Faulty κ ε σ) : Faulty κ ε σ :=
  { s with faults := s.faults.insert k (s.queue k ++ [f]) }

/-- An operation behind its faults. -/
def behind (k : κ) (run : σ → Except ε α × σ) (s : Faulty κ ε σ) : Except ε α × Faulty κ ε σ :=
  match s.queue k with
  | ⟨error, 0⟩ :: rest => (.error error, { s with faults := s.faults.insert k rest })
  | ⟨error, n + 1⟩ :: rest =>
    let x := run s.inner
    (x.1, { s with inner := x.2, faults := s.faults.insert k (⟨error, n⟩ :: rest) })
  | [] =>
    let x := run s.inner
    (x.1, { s with inner := x.2 })

end Faulty

/-! ## Platforms -/

/-- The operations of a platform that can fail. -/
inductive Method where
  | interfaces
  | configure
  | start
  | announceStop
  | stop
  | subscribe
  | unsubscribe
  | status
  | netstat
  | mac
  | address
  | setAddress
  | setMethod
  | openSession
  | request
  | renew
  | release
  | close
  | startServer
  | stopServer
  deriving DecidableEq, Repr

/-- A platform whose operations can be made to fail. -/
def faultyPlatform {σ : Type} (P : Platform σ) : Platform (Faulty Method PlatformError σ) where
  interfaces := Faulty.behind .interfaces P.interfaces
  ownsDhcpClient s := P.ownsDhcpClient s.inner
  configure name setup := Faulty.behind .configure (P.configure name setup)
  start name := Faulty.behind .start (P.start name)
  announceStop name := Faulty.behind .announceStop (P.announceStop name)
  stop name := Faulty.behind .stop (P.stop name)
  subscribe name := Faulty.behind .subscribe (P.subscribe name)
  unsubscribe name := Faulty.behind .unsubscribe (P.unsubscribe name)
  status name := Faulty.behind .status (P.status name)
  netstat name := Faulty.behind .netstat (P.netstat name)
  mac name := Faulty.behind .mac (P.mac name)
  address name := Faulty.behind .address (P.address name)
  setAddress name addressing := Faulty.behind .setAddress (P.setAddress name addressing)
  setMethod name method := Faulty.behind .setMethod (P.setMethod name method)
  openSession name mac := Faulty.behind .openSession (P.openSession name mac)
  request id := Faulty.behind .request (P.request id)
  renew id mode := Faulty.behind .renew (P.renew id mode)
  release id := Faulty.behind .release (P.release id)
  close id := Faulty.behind .close (P.close id)
  startServer name setup := Faulty.behind .startServer (P.startServer name setup)
  stopServer name := Faulty.behind .stopServer (P.stopServer name)

/-! ## Stores -/

/-- The operations of a store on each key. -/
inductive StoreMethod where
  | load (key : String)
  | save (key : String)
  deriving DecidableEq, Repr

/-- A store whose operations can be made to fail. -/
def faultyStore {τ : Type} (S : Store τ) :
    Store (Faulty StoreMethod StoreError τ) where
  load key := Faulty.behind (.load key) (S.load key)
  save key v := Faulty.behind (.save key) (S.save key v)

end Connectivity.Simulation
