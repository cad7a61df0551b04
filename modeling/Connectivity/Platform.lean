/-
  Connectivity.Platform — the layer below the control plane: the interfaces of a device, their
  events and addresses, the DHCP client and server, and the errors the layer answers with.

  A platform is a record of operations over a state of its own. Each operation answers or fails
  and leaves a next state, and nothing else is assumed, so what holds for every platform holds
  for every sequence of answers and failures.
-/

import Connectivity.Net.Ipv4

namespace Connectivity

open Net (Ipv4)

/-! ## Time -/

/-- A second on the clock, which counts nanoseconds. -/
def second : Nat := 1000000000

def millisecond : Nat := 1000000

/-! ## Interfaces -/

inductive InterfaceKind where
  | wifi
  | ethernet
  deriving DecidableEq, Repr

namespace InterfaceKind

def text : InterfaceKind → String
  | .wifi => "wifi"
  | .ethernet => "ethernet"

def label : InterfaceKind → String
  | .wifi => "Wifi"
  | .ethernet => "Ethernet"

end InterfaceKind

/-- An interface as the platform reports it. -/
structure Interface where
  name : String
  kind : InterfaceKind
  /-- Usable for the normal connection. -/
  cloudEnabled : Bool
  /-- Usable for the access point. -/
  localEnabled : Bool
  deriving DecidableEq, Repr

inductive Event where
  | ifUp
  | ifDown
  /-- The interface is about to go down. -/
  | ifDownPre
  | linkUp
  | linkDown
  | stationConnected
  | stationDisconnected
  | stationStopped
  | apStarted
  | apClientJoined
  | apClientLeft
  /-- One second has passed. -/
  | tick
  deriving DecidableEq, Repr

inductive Security where
  | wpa2
  | wpa3
  | wpa2wpa3
  deriving DecidableEq, Repr

/-- What an interface is set up as before it is started. -/
inductive InterfaceSetup where
  | ethernet
  | station (ssid password : String) (security : Security)
  | accessPoint (ssid password : String) (security : Security) (channel : UInt8)
  deriving DecidableEq, Repr

structure InterfaceState where
  isUp : Bool := false
  isLinkUp : Bool := false
  /-- Signal strength in dBm. -/
  rssi : Int := 0
  deriving DecidableEq, Repr

abbrev HardwareAddress := Vector UInt8 6

/-! ## Addresses and leases -/

inductive AddressMethod where
  | static
  | dhcp
  deriving DecidableEq, Repr

structure Addressing where
  address : Ipv4 := .unspecified
  netmask : Ipv4 := .unspecified
  gateway : Ipv4 := .unspecified
  dns : Ipv4 := .unspecified
  deriving DecidableEq, Repr

/-- What stands for no address. -/
def Addressing.unspecified : Addressing := {}

structure SessionId where
  number : Nat
  deriving DecidableEq, Repr

/-- What a DHCP server granted; times in seconds. -/
structure Grant where
  address : Ipv4
  netmask : Ipv4
  router : Ipv4
  dns : Ipv4
  server : Ipv4
  leaseTime : UInt32
  renewalTime : UInt32
  rebindingTime : UInt32
  deriving DecidableEq, Repr

def Grant.addressing (g : Grant) : Addressing := ⟨g.address, g.netmask, g.router, g.dns⟩

/-- To whom a renewal is sent: the granting server, or any. -/
inductive Renewal where
  | unicast
  | rebind
  deriving DecidableEq, Repr

structure ServerSetup where
  address : Ipv4
  netmask : Ipv4
  deriving DecidableEq, Repr

/-! ## Errors -/

inductive LeaseFailure where
  /-- The server refused; the lease is gone. -/
  | nak
  | timeout
  | protocol
  | server
  deriving DecidableEq, Repr

def LeaseFailure.label : LeaseFailure → String
  | .nak => "Nak"
  | .timeout => "Timeout"
  | .protocol => "Protocol"
  | .server => "Server"

inductive PlatformError where
  | interface (operation name message : String)
  | dhcp (operation : String) (failure : LeaseFailure) (message : String)
  | legacy (item message : String)
  /-- The interface was not running. -/
  | stopped (name : String)
  | unknownInterface (name : String)
  | invalid (message : String)
  | unsupported (message : String)
  deriving DecidableEq, Repr

namespace PlatformError

def message : PlatformError → String
  | .interface operation name message => s!"Interface error on {name} in {operation}: {message}"
  | .dhcp operation failure message =>
    s!"DHCP error in {operation} ({failure.label}): {message}"
  | .legacy item message => s!"Migration error for {item}: {message}"
  | .stopped name => s!"Interface {name} is already stopped"
  | .unknownInterface name => s!"Unknown interface: {name}"
  | .invalid message => s!"Invalid operation: {message}"
  | .unsupported message => s!"Unsupported operation: {message}"

def isStopped : PlatformError → Bool
  | .stopped _ => true
  | _ => false

def leaseFailure? : PlatformError → Option LeaseFailure
  | .dhcp _ failure _ => some failure
  | _ => none

end PlatformError

/-! ## Platforms -/

/-- An operation on a platform's state. -/
abbrev Action (σ α : Type) := σ → Except PlatformError α × σ

structure Platform (σ : Type) where
  interfaces : Action σ (List Interface)
  /-- Whether the platform runs a DHCP client of its own. -/
  ownsDhcpClient : σ → Bool
  configure : String → InterfaceSetup → Action σ Unit
  start : String → Action σ Unit
  /-- Announces a stop and waits for the pre-teardown event; whether the control plane received
      the event before the wait ended. -/
  announceStop : String → Action σ Bool
  stop : String → Action σ Unit
  /-- Has the events of an interface delivered to the control plane. -/
  subscribe : String → Action σ Unit
  unsubscribe : String → Action σ Unit
  status : String → Action σ InterfaceState
  netstat : String → Action σ String
  mac : String → Action σ HardwareAddress
  address : String → Action σ Addressing
  setAddress : String → Addressing → Action σ Unit
  setMethod : String → AddressMethod → Action σ Unit
  openSession : String → HardwareAddress → Action σ SessionId
  request : SessionId → Action σ Grant
  renew : SessionId → Renewal → Action σ Grant
  release : SessionId → Action σ Unit
  close : SessionId → Action σ Unit
  startServer : String → ServerSetup → Action σ Unit
  stopServer : String → Action σ Unit

end Connectivity
