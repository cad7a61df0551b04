/-
  Connectivity.Proofs.CallLog — a platform that writes down the calls it gets. It answers as the
  platform below it does, so what holds of the calls holds of any platform.
  - `uses`: what the calls have done with DHCP sessions. Only `openSession`, `request`, `renew`,
    `release` and `close` do anything with one.
-/

import Connectivity.Proofs.Runs

namespace Connectivity

/-- A call of a platform's operation; a session that was opened is its answer. -/
inductive PlatformCall where
  | interfaces
  | configure (name : String) (setup : InterfaceSetup)
  | start (name : String)
  | announceStop (name : String)
  | stop (name : String)
  | subscribe (name : String)
  | unsubscribe (name : String)
  | status (name : String)
  | netstat (name : String)
  | mac (name : String)
  | address (name : String)
  | setAddress (name : String) (addressing : Addressing)
  | setMethod (name : String) (method : AddressMethod)
  | openSession (name : String) (mac : HardwareAddress) (opened : Option SessionId)
  | request (id : SessionId)
  | renew (id : SessionId) (mode : Renewal)
  | release (id : SessionId)
  | close (id : SessionId)
  | startServer (name : String) (setup : ServerSetup)
  | stopServer (name : String)
  deriving DecidableEq

/-! ## Sessions -/

inductive UseKind where
  | opened
  /-- A lease was requested or renewed. -/
  | asked
  | released
  | closed
  deriving DecidableEq

/-- Something done with a session. -/
structure Use where
  kind : UseKind
  session : SessionId
  deriving DecidableEq

namespace PlatformCall

def use? : PlatformCall → Option Use
  | .openSession _ _ (some id) => some ⟨.opened, id⟩
  | .request id => some ⟨.asked, id⟩
  | .renew id _ => some ⟨.asked, id⟩
  | .release id => some ⟨.released, id⟩
  | .close id => some ⟨.closed, id⟩
  | _ => none

end PlatformCall

/-! ## Records -/

/-- A platform's state with the calls so far, the latest first. -/
structure Recorded (σ : Type) where
  inner : σ
  calls : List PlatformCall := []

variable {σ τ α : Type}

def record (call : Except PlatformError α → PlatformCall) (a : Action σ α) : Action (Recorded σ) α :=
  fun x => ((a x.inner).1, ⟨(a x.inner).2, call (a x.inner).1 :: x.calls⟩)

def Platform.recorded (P : Platform σ) : Platform (Recorded σ) where
  interfaces := record (fun _ => .interfaces) P.interfaces
  ownsDhcpClient x := P.ownsDhcpClient x.inner
  configure name setup := record (fun _ => .configure name setup) (P.configure name setup)
  start name := record (fun _ => .start name) (P.start name)
  announceStop name := record (fun _ => .announceStop name) (P.announceStop name)
  stop name := record (fun _ => .stop name) (P.stop name)
  subscribe name := record (fun _ => .subscribe name) (P.subscribe name)
  unsubscribe name := record (fun _ => .unsubscribe name) (P.unsubscribe name)
  status name := record (fun _ => .status name) (P.status name)
  netstat name := record (fun _ => .netstat name) (P.netstat name)
  mac name := record (fun _ => .mac name) (P.mac name)
  address name := record (fun _ => .address name) (P.address name)
  setAddress name addressing := record (fun _ => .setAddress name addressing) (P.setAddress name addressing)
  setMethod name method := record (fun _ => .setMethod name method) (P.setMethod name method)
  openSession name mac :=
    record (fun answer => .openSession name mac answer.toOption) (P.openSession name mac)
  request id := record (fun _ => .request id) (P.request id)
  renew id mode := record (fun _ => .renew id mode) (P.renew id mode)
  release id := record (fun _ => .release id) (P.release id)
  close id := record (fun _ => .close id) (P.close id)
  startServer name setup := record (fun _ => .startServer name setup) (P.startServer name setup)
  stopServer name := record (fun _ => .stopServer name) (P.stopServer name)

/-- A control plane over the recorded platform. -/
def ControlPlane.recorded (M : ControlPlane σ τ) : ControlPlane (Recorded σ) τ :=
  { policy := M.policy, platform := M.platform.recorded, store := M.store, memory := M.memory, valid := M.valid }

namespace Env

def calls (e : Env (Recorded σ)) : List PlatformCall := e.platform.calls

/-- What was done with sessions, the latest first. -/
def uses (e : Env (Recorded σ)) : List Use := e.calls.filterMap PlatformCall.use?

@[simp] theorem uses_signal (e : Env (Recorded σ)) (x : Signal) (on : Bool) :
    (e.signal x on).uses = e.uses := rfl

section
variable {call : Except PlatformError α → PlatformCall} {a : Action σ α} {answer : Except PlatformError α}

theorem calls_of_perform {e e' : Env (Recorded σ)} (h : e.perform (record call a) = (answer, e')) :
    e'.calls = call answer :: e.calls := by
  cases h
  rfl

theorem uses_of_perform {e e' : Env (Recorded σ)} (h : e.perform (record call a) = (answer, e')) :
    e'.uses = (call answer).use?.toList ++ e.uses := by
  unfold uses
  rw [calls_of_perform h]
  cases hu : (call answer).use? with
  | none => exact List.filterMap_cons_none hu
  | some u => exact List.filterMap_cons_some hu

theorem uses_perform (e : Env (Recorded σ)) (call : Except PlatformError α → PlatformCall) (a : Action σ α) :
    (e.perform (record call a)).2.uses =
      (call (e.perform (record call a)).1).use?.toList ++ e.uses :=
  uses_of_perform rfl

end

end Env

open Simulation in
/-- The camera with its calls recorded. -/
def Camera.recording : ControlPlane.State (Recorded Board) Shelf :=
  plane.recorded.initial { platform := { inner := Board.ofInterfaces Network.twoPortBoard } } { inner := {} }

end Connectivity
