/-
  Connectivity.Simulation.Network — a platform without hardware. It keeps the state of each
  interface, notes the calls it gets, takes events from outside and has scripted DHCP answers.
  Events go to the control plane or to an observer, whichever listens to the interface.
-/

import Connectivity.Platform
import Connectivity.Table

namespace Connectivity.Simulation

/-- A call that reached the platform. -/
inductive Call where
  | configure (name : String) (setup : InterfaceSetup)
  | start (name : String)
  | announceStop (name : String)
  | stop (name : String)
  | setAddress (name : String) (addressing : Addressing)
  | setMethod (name : String) (method : AddressMethod)
  | openSession (name : String)
  | request (name : String)
  | renew (name : String) (mode : Renewal)
  | release (name : String)
  | close (name : String)
  | startServer (name : String)
  | stopServer (name : String)
  deriving DecidableEq, Repr

/-- The operations whose next call can be made to fail after it was noted. -/
inductive FailPoint where
  | configure
  | start
  | announceStop
  | stop
  | setAddress
  | openSession
  | release
  | startServer
  deriving DecidableEq, Repr

/-- One simulated interface. -/
structure Device where
  mac : HardwareAddress
  setup : Option InterfaceSetup := none
  running : Bool := false
  ifUp : Bool := false
  linkUp : Bool := false
  rssi : Int := 0
  address : Addressing := .unspecified
  method : Option AddressMethod := none
  deriving DecidableEq, Repr

/-- Who gets the events of an interface. -/
inductive Listener where
  | controlPlane
  | observer
  deriving DecidableEq, Repr

structure Network where
  interfaces : List Interface
  ownsDhcpClient : Bool := false
  devices : Table String Device := .empty
  listeners : Table String Listener := .empty
  /-- The open sessions with their interfaces. -/
  sessions : Table SessionId String := .empty
  lastSession : Nat := 0
  /-- The DHCP answers to come. -/
  script : List (Except PlatformError Grant) := []
  /-- The interfaces that serve DHCP. -/
  servers : Table String Unit := .empty
  failures : Table FailPoint PlatformError := .empty
  /-- Whether a stopped interface stays up until an event takes it down. -/
  slowTeardown : Bool := false
  /-- The calls, the latest first. -/
  calls : List Call := []
  /-- The events that went to observers, the latest first. -/
  heard : List (String × Event) := []

namespace Network

/-! ## Boards -/

/-- The hardware address of the interface at a place on the board. -/
def macAt (index : Nat) : HardwareAddress := #v[0x02, 0x00, 0x5e, 0x10, 0x00, index.toUInt8]

def ofInterfaces (interfaces : List Interface) : Network :=
  { interfaces
    devices :=
      interfaces.zipIdx.foldl (fun t x => t.insert x.1.name { mac := macAt x.2 }) .empty }

/-- A board with an Ethernet interface for the normal connection and a Wi-Fi interface for both
    modes. -/
def twoPortBoard : List Interface :=
  [ { name := "eth0", kind := .ethernet, cloudEnabled := true, localEnabled := false },
    { name := "wlan0", kind := .wifi, cloudEnabled := true, localEnabled := true } ]

/-- The lease that is granted where no answer is scripted. -/
def defaultGrant : Grant :=
  { address := ⟨192, 168, 0, 100⟩, netmask := ⟨255, 255, 255, 0⟩, router := ⟨192, 168, 0, 1⟩,
    dns := ⟨192, 168, 0, 1⟩, server := ⟨192, 168, 0, 1⟩,
    leaseTime := 3600, renewalTime := 1800, rebindingTime := 3150 }

/-! ## Events -/

/-- What an event does to the interface it is about. -/
def Device.after (d : Device) : Event → Device
  | .ifUp => { d with ifUp := true }
  | .apStarted => { d with ifUp := true }
  | .ifDown => { d with ifUp := false, linkUp := false }
  | .stationStopped => { d with ifUp := false, linkUp := false }
  | .linkUp => { d with linkUp := true }
  | .linkDown => { d with linkUp := false }
  | .stationDisconnected => { d with linkUp := false }
  | .stationConnected => { d with ifUp := true, linkUp := true }
  | _ => d

/-- Hands an event to whoever listens to the interface; whether that is the control plane. -/
def deliver (name : String) (event : Event) (n : Network) : Bool × Network :=
  match n.listeners.find? name with
  | some .controlPlane => (true, n)
  | some .observer => (false, { n with heard := (name, event) :: n.heard })
  | none => (false, n)

/-- An event from outside: it changes the interface and is delivered. -/
def occur (name : String) (event : Event) (n : Network) : Bool × Network :=
  ({ n with devices := n.devices.alter name (fun d => Device.after d event) }).deliver name event

/-- The interfaces that anyone listens to, in the order of their registration. -/
def listened (n : Network) : List String := n.listeners.keys

/-! ## Calls -/

def note (call : Call) (n : Network) : Network := { n with calls := call :: n.calls }

/-- Notes a call and fails it if that was asked for. -/
def begin (call : Call) (point : FailPoint) (n : Network) : Except PlatformError Unit × Network :=
  let n := n.note call
  match n.failures.find? point with
  | some e => (.error e, { n with failures := n.failures.erase point })
  | none => (.ok (), n)

/-- Runs the rest of a call that was begun. -/
def andThen {α : Type} (x : Except PlatformError Unit × Network) (rest : Action Network α) :
    Except PlatformError α × Network :=
  match x with
  | (.error e, n) => (.error e, n)
  | (.ok _, n) => rest n

/-- Runs a call on an interface, which has to be known. -/
def onDevice {α : Type} (name : String) (run : Device → Action Network α) : Action Network α :=
  fun n =>
    match n.devices.find? name with
    | some d => run d n
    | none => (.error (.unknownInterface name), n)

def setDevice (name : String) (d : Device) (n : Network) : Network :=
  { n with devices := n.devices.insert name d }

def configure (name : String) (setup : InterfaceSetup) : Action Network Unit := fun n =>
  andThen (n.begin (.configure name setup) .configure)
    (onDevice name (fun d n => (.ok (), n.setDevice name { d with setup := some setup })))

def start (name : String) : Action Network Unit := fun n =>
  andThen (n.begin (.start name) .start)
    (onDevice name (fun d n =>
      if d.setup.isNone then (.error (.interface "start" name "not configured"), n)
      else (.ok (), n.setDevice name { d with running := true })))

def announceStop (name : String) : Action Network Bool := fun n =>
  andThen (n.begin (.announceStop name) .announceStop)
    (onDevice name (fun d n =>
      if d.running then
        let (delivered, n) := n.deliver name .ifDownPre
        (.ok delivered, n)
      else (.error (.stopped name), n)))

def stop (name : String) : Action Network Unit := fun n =>
  andThen (n.begin (.stop name) .stop)
    (onDevice name (fun d n =>
      if d.running then
        (.ok (),
          n.setDevice name
            { d with
              running := false, linkUp := false, address := .unspecified,
              ifUp := n.slowTeardown && d.ifUp })
      else (.error (.stopped name), n)))

def register (listener : Listener) (name : String) : Action Network Unit :=
  onDevice name (fun _ n =>
    if n.listeners.contains name then
      (.error (.invalid ("handler already registered for " ++ name)), n)
    else (.ok (), { n with listeners := n.listeners.insert name listener }))

def unregister (name : String) : Action Network Unit := fun n =>
  if n.listeners.contains name then (.ok (), { n with listeners := n.listeners.erase name })
  else (.error (.invalid ("no handler registered for " ++ name)), n)

def status (name : String) : Action Network InterfaceState :=
  onDevice name (fun d n => (.ok ⟨d.ifUp, d.linkUp, d.rssi⟩, n))

def netstat (name : String) : Action Network String :=
  onDevice name (fun d n =>
    (.ok
      (name ++ ": running=" ++ toString d.running ++ " if_up=" ++ toString d.ifUp ++
        " link_up=" ++ toString d.linkUp ++ " inet " ++ d.address.address.text ++
        " netmask " ++ d.address.netmask.text ++ " gateway " ++ d.address.gateway.text ++ "\n"),
      n))

def mac (name : String) : Action Network HardwareAddress :=
  onDevice name (fun d n => (.ok d.mac, n))

def address (name : String) : Action Network Addressing :=
  onDevice name (fun d n => (.ok d.address, n))

def setAddress (name : String) (addressing : Addressing) : Action Network Unit := fun n =>
  andThen (n.begin (.setAddress name addressing) .setAddress)
    (onDevice name (fun d n => (.ok (), n.setDevice name { d with address := addressing })))

def setMethod (name : String) (method : AddressMethod) : Action Network Unit := fun n =>
  onDevice name (fun d n => (.ok (), n.setDevice name { d with method := some method }))
    (n.note (.setMethod name method))

/-! ## DHCP -/

def openSession (name : String) : Action Network SessionId := fun n =>
  andThen (n.begin (.openSession name) .openSession)
    (onDevice name (fun _ n =>
      let id : SessionId := ⟨n.lastSession + 1⟩
      (.ok id, { n with lastSession := id.number, sessions := n.sessions.insert id name })))

/-- Runs a call on the interface of an open session. -/
def inSession {α : Type} (id : SessionId) (run : String → Action Network α) : Action Network α :=
  fun n =>
    match n.sessions.find? id with
    | some name => run name n
    | none => (.error (.invalid ("unknown DHCP session " ++ toString id.number)), n)

/-- The next scripted answer, or the default lease. -/
def answer : Action Network Grant := fun n =>
  match n.script with
  | reply :: rest => (reply, { n with script := rest })
  | [] => (.ok defaultGrant, n)

def request (id : SessionId) : Action Network Grant :=
  inSession id (fun name n => answer (n.note (.request name)))

def renew (id : SessionId) (mode : Renewal) : Action Network Grant :=
  inSession id (fun name n => answer (n.note (.renew name mode)))

def release (id : SessionId) : Action Network Unit :=
  inSession id (fun name n => n.begin (.release name) .release)

def close (id : SessionId) : Action Network Unit :=
  inSession id (fun name n =>
    (.ok (), { n.note (.close name) with sessions := n.sessions.erase id }))

def startServer (name : String) : Action Network Unit := fun n =>
  andThen (n.begin (.startServer name) .startServer)
    (fun n => (.ok (), { n with servers := n.servers.insert name () }))

def stopServer (name : String) : Action Network Unit := fun n =>
  let n := n.note (.stopServer name)
  if n.servers.contains name then (.ok (), { n with servers := n.servers.erase name })
  else (.error (.stopped name), n)

/-! ## The platform -/

def platform : Platform Network where
  interfaces n := (.ok n.interfaces, n)
  ownsDhcpClient n := n.ownsDhcpClient
  configure := configure
  start := start
  announceStop := announceStop
  stop := stop
  subscribe := register .controlPlane
  unsubscribe := unregister
  status := status
  netstat := netstat
  mac := mac
  address := address
  setAddress := setAddress
  setMethod := setMethod
  openSession name _ := openSession name
  request := request
  renew := renew
  release := release
  close := close
  startServer name _ := startServer name
  stopServer := stopServer

end Network

end Connectivity.Simulation
