/-
  Connectivity.Proofs.Runs — runs of a control plane. A run starts before the first `setUp` and
  goes on by moves: a call of a user, an event, or something outside (the platform, the store or
  the clock changes, another caller takes the lock). The platform answers what its state says and
  that state may be anything, so a run has any answers and failures. A stop is one move: the event
  ahead of the teardown is answered inside it if the platform says that it arrived, and one that
  comes too late, or while another event gets in first, is an event of the run. While it waits for
  that event the stop may lose the lock to a caller that the run says is there.
-/

import Connectivity.ControlPlane.Connection
import Connectivity.Simulation.Bench

namespace Connectivity

namespace ControlPlane

/-- What can happen to a control plane. A section of parameters or an older setting is saved and
    loaded as any parameters are. -/
inductive Move (σ τ : Type) where
  | setUp
  | dissolve
  | issue (mode : Mode) (access : Access)
  | revoke (h : Handle)
  | start (h : Handle) (source : ParameterSource)
  | stop (h : Handle)
  | flags (h : Handle)
  | snapshot (h : Handle)
  | rssi (h : Handle)
  | netstat (h : Handle)
  | listen (h : Handle)
  | unlisten (h : Handle)
  | save (mask : Mask) (p : Parameters)
  | load (mask : Mask) (p : Parameters)
  | event (name : String) (event : Event)
  /-- Platform and store change by themselves, and the clock reads anew. -/
  | outside (platform : σ → σ) (store : τ → τ) (now : Nat)
  /-- Another caller takes the lock or gives it back, or there is one that waits for it. -/
  | lock (held contended : Bool)

variable {σ τ α : Type} (M : ControlPlane σ τ)

def step : Move σ τ → State σ τ → State σ τ
  | .setUp, s => (M.setUp s).2
  | .dissolve, s => (M.dissolve s).2
  | .issue mode access, s => (issueHandle mode access s).2
  | .revoke h, s => (revokeHandle h s).2
  | .start h source, s => (M.start h source s).2
  | .stop h, s => (M.stop h s).2
  | .flags h, s => (flags h s).2
  | .snapshot h, s => (snapshot h s).2
  | .rssi h, s => (M.rssi h s).2
  | .netstat h, s => (M.netstat h s).2
  | .listen h, s => (listen h s).2
  | .unlisten h, s => (unlisten h s).2
  | .save mask p, s => (M.saveParameters mask p s).2
  | .load mask p, s => (M.loadParameters mask p s).2.2
  | .event name event, s => M.receive name event s
  | .outside platform store now, s =>
    { s with env := { s.env with platform := platform s.env.platform, now }, store := store s.store }
  | .lock held contended, s => { s with roster := { s.roster with locked := held, contended } }

/-- The states that moves lead to from `s₀`, each allowed where it is made. -/
inductive Reach (ok : State σ τ → Move σ τ → Prop) (s₀ : State σ τ) : State σ τ → Prop
  | refl : Reach ok s₀ s₀
  | step {s : State σ τ} (mv : Move σ τ) : Reach ok s₀ s → ok s mv → Reach ok s₀ (M.step mv s)

/-- A run whose moves are all allowed, as a condition that can be evaluated. -/
def Allowed (ok : State σ τ → Move σ τ → Prop) : State σ τ → List (Move σ τ) → Prop
  | _, [] => True
  | s, mv :: mvs => ok s mv ∧ Allowed ok (M.step mv s) mvs

instance decidableAllowed {ok : State σ τ → Move σ τ → Prop} [∀ s mv, Decidable (ok s mv)] :
    ∀ (s : State σ τ) (mvs : List (Move σ τ)), Decidable (M.Allowed ok s mvs)
  | _, [] => .isTrue trivial
  | s, mv :: mvs => @instDecidableAnd _ _ _ (decidableAllowed (M.step mv s) mvs)

def run (mvs : List (Move σ τ)) (s : State σ τ) : State σ τ := mvs.foldl (fun s mv => M.step mv s) s

variable {M}

theorem Reach.trans {ok : State σ τ → Move σ τ → Prop} {s₀ s s' : State σ τ}
    (h : M.Reach ok s₀ s) (h' : M.Reach ok s s') : M.Reach ok s₀ s' := by
  induction h' with
  | refl => exact h
  | step mv _ hok ih => exact .step mv ih hok

theorem Reach.mono {ok ok' : State σ τ → Move σ τ → Prop} {s₀ s : State σ τ}
    (hok : ∀ s mv, ok s mv → ok' s mv) (h : M.Reach ok s₀ s) : M.Reach ok' s₀ s := by
  induction h with
  | refl => exact .refl
  | step mv _ h ih => exact .step mv ih (hok _ _ h)

theorem reach_run {ok : State σ τ → Move σ τ → Prop} {mvs : List (Move σ τ)} {s : State σ τ}
    (h : M.Allowed ok s mvs) : M.Reach ok s (M.run mvs s) := by
  induction mvs generalizing s with
  | nil => exact .refl
  | cons mv mvs ih =>
    obtain ⟨hok, h⟩ := h
    exact (Reach.step mv .refl hok).trans (ih h)

theorem allowed_append {ok : State σ τ → Move σ τ → Prop} {mvs rest : List (Move σ τ)} {s : State σ τ} :
    M.Allowed ok s (mvs ++ rest) ↔ M.Allowed ok s mvs ∧ M.Allowed ok (M.run mvs s) rest := by
  induction mvs generalizing s with
  | nil => exact ⟨fun h => ⟨trivial, h⟩, And.right⟩
  | cons mv mvs ih => exact (and_congr_right fun _ => ih).trans and_assoc.symm

/-- Where nothing is forbidden, every run is one. -/
theorem reach_any (mvs : List (Move σ τ)) (s : State σ τ) :
    M.Reach (fun _ _ => True) s (M.run mvs s) := by
  refine reach_run ?_
  induction mvs generalizing s with
  | nil => trivial
  | cons mv mvs ih => exact ⟨trivial, ih _⟩

end ControlPlane

/-! ## A camera

A control plane on a simulated board with two ports, of which both modes use the radio. Its runs reach
the states that theorems are about. -/

namespace Camera

open Simulation ControlPlane

def plane : Plane where
  policy := {}
  platform := Board.platform
  store := Shelf.operations
  memory := Simulation.memory
  valid := rfl

def off : PlaneState :=
  plane.initial { platform := Board.ofInterfaces Network.twoPortBoard } { inner := {} }

def normal : Handle := .make 0 0

def accessPoint : Handle := .make 1 0

/-- A Wi-Fi network that gives out addresses. -/
def home : Parameters := { normal := { netifKind := 0, station := { ssid := "home" } } }

/-- The camera's own network. -/
def hotspot : Parameters :=
  { accessPoint :=
      { ip := { address := "192.168.4.1", netmask := "255.255.255.0" }
        ap := { ssid := "camera", password := "12345678", channel := 6 } } }

/-- Both modes have a handle. -/
def switchOn {σ τ : Type} : List (Move σ τ) :=
  [.setUp, .issue .normal .control, .issue .accessPoint .control]

/-- The normal mode has joined the network and got a lease. -/
def join {σ τ : Type} : List (Move σ τ) :=
  switchOn ++ [.start normal (.given home), .event "wlan0" .stationConnected]

/-- The normal mode has a lease over Ethernet while the access point is up. -/
def bothUp {σ τ : Type} : List (Move σ τ) :=
  switchOn ++
    [.start normal (.given { normal := { netifKind := 1 } }), .event "eth0" .ifUp, .event "eth0" .linkUp,
      .start accessPoint (.given hotspot), .event "wlan0" .apStarted]

end Camera

end Connectivity
