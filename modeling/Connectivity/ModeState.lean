/-
  Connectivity.ModeState — the state of one mode's connection: its status, the interfaces it may
  use and the one it uses, its address and lease, and what its callback was last told.
-/

import Connectivity.Lease

namespace Connectivity

/-- The interface that a connection uses. -/
structure Carrier where
  name : String
  kind : InterfaceKind
  deriving DecidableEq, Repr

structure ModeState where
  mode : Mode
  /-- The interfaces assigned to the mode, at most one of each kind. -/
  ethernet : Option Interface
  wifi : Option Interface
  status : Status := .disconnected
  /-- The parameters of the last start that succeeded. -/
  saved : Option Parameters := none
  address : Addressing := .unspecified
  /-- The clients of the access point, counted up to the largest word of 32 bits. -/
  clients : Nat := 0
  ifUp : Bool := false
  linkUp : Bool := false
  /-- What the callback was last told. -/
  told : Standing := .disconnected
  /-- Whether a callback is registered. -/
  listening : Bool := false
  carrier : Option Carrier := none
  client : Option Client := none
  serverRunning : Bool := false
  apStarted : Bool := false
  deriving DecidableEq, Repr

namespace ModeState

/-- The parameters of the last start that succeeded, or parameters that are not set. -/
def parameters (m : ModeState) : Parameters := m.saved.getD {}

/-- Clears what an earlier connection left behind. -/
def cleared (m : ModeState) : ModeState :=
  { m with
    address := .unspecified, clients := 0, ifUp := false, linkUp := false, carrier := none,
    client := none, serverRunning := false, apStarted := false }

def interface? (m : ModeState) : InterfaceKind → Option Interface
  | .ethernet => m.ethernet
  | .wifi => m.wifi

def carrierName? (m : ModeState) : Option String := m.carrier.map (·.name)

def carrierKind? (m : ModeState) : Option InterfaceKind := m.carrier.map (·.kind)

/-- The interface that queries go to: the carrier, else the first assigned. -/
def queryName? (m : ModeState) : Option String :=
  m.carrierName?.or ((m.ethernet.or m.wifi).map (·.name))

/-- Whether events of the interface `name` are meant for this mode. -/
def accepts (m : ModeState) (name : String) : Bool :=
  m.status ≠ .disconnected && m.carrierName? = some name

/-- What the callback should have been told in this state. -/
def standing (m : ModeState) : Standing :=
  match m.status with
  | .connected => .connected
  | .connecting => if m.mode = .accessPoint && m.apStarted then .apStart else .disconnected
  | _ => .disconnected

/-- Brings `told` up to date; the status to tell the callback, if it changed and there is
    one. -/
def refresh (m : ModeState) : Option Standing × ModeState :=
  if m.standing = m.told then (none, m)
  else (if m.listening then some m.standing else none, { m with told := m.standing })

theorem refresh_snd (m : ModeState) : m.refresh.2 = { m with told := m.standing } := by
  unfold refresh
  by_cases h : m.standing = m.told
  · simp only [h, if_true]
  · simp only [h, if_false]

/-- One line that describes the state. -/
def summary (m : ModeState) : String :=
  let carrier :=
    match m.carrier with
    | none => "None"
    | some c =>
      "Some(ActiveInterface \x7b name: " ++ Text.quote c.name ++ ", kind: " ++ c.kind.label ++
        " \x7d)"
  "ModeInfo \x7b mode: " ++ m.mode.label ++ ", connect_status: " ++ m.status.label ++
    ", notify: " ++ m.told.label ++ ", active: " ++ carrier ++
    ", ap_client_count: " ++ toString m.clients ++
    ", has_callback: " ++ toString m.listening ++ ", .. \x7d"

end ModeState

/-! ## Both modes -/

/-- The state of both modes, with every interface that the platform reported. -/
structure Modes where
  normal : ModeState
  accessPoint : ModeState
  interfaces : List Interface
  deriving DecidableEq, Repr

namespace Modes

def get (r : Modes) : Mode → ModeState
  | .normal => r.normal
  | .accessPoint => r.accessPoint

def set (r : Modes) (mode : Mode) (m : ModeState) : Modes :=
  match mode with
  | .normal => { r with normal := m }
  | .accessPoint => { r with accessPoint := m }

@[simp] theorem get_set (r : Modes) (mode mode' : Mode) (m : ModeState) :
    (r.set mode m).get mode' = if mode = mode' then m else r.get mode' := by
  cases mode <;> cases mode' <;> rfl

@[simp] theorem set_set (r : Modes) (mode : Mode) (m m' : ModeState) :
    (r.set mode m).set mode m' = r.set mode m' := by
  cases mode <;> rfl

@[simp] theorem set_get (r : Modes) (mode : Mode) : r.set mode (r.get mode) = r := by
  cases mode <;> rfl

@[simp] theorem interfaces_set (r : Modes) (mode : Mode) (m : ModeState) :
    (r.set mode m).interfaces = r.interfaces := by
  cases mode <;> rfl

/-- The first interface of a kind that is usable. -/
def firstOf (interfaces : List Interface) (kind : InterfaceKind) (usable : Interface → Bool) :
    Option Interface :=
  interfaces.find? (fun i => i.kind = kind && usable i)

/-- Fresh states with the interfaces assigned: the normal mode takes the first cloud-enabled
    interface of each kind, the access point the first local-enabled Wi-Fi interface. Without an
    interface for the normal mode there is nothing to run. -/
def ofInterfaces? (interfaces : List Interface) : Option Modes :=
  let ethernet := firstOf interfaces .ethernet Interface.cloudEnabled
  let wifi := firstOf interfaces .wifi Interface.cloudEnabled
  if ethernet.isNone && wifi.isNone then none
  else
    some
      { normal := { mode := .normal, ethernet, wifi }
        accessPoint :=
          { mode := .accessPoint, ethernet := none
            wifi := firstOf interfaces .wifi Interface.localEnabled }
        interfaces }

end Modes

end Connectivity
