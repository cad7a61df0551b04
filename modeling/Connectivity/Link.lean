/-
  Connectivity.Link — what a mode does to its interface: starting and stopping it, giving it an
  address when its link comes up, keeping its lease, and running an access point. Each move takes
  the mode's state and the surroundings it acts through and gives both back. Only `start` and
  `stop` report errors; a failure elsewhere is shown by a light and leaves the next event to mend
  it.
-/

import Connectivity.Indicator
import Connectivity.ModeState
import Connectivity.Parameter.Setup

namespace Connectivity

variable {σ α : Type}

/-! ## Surroundings -/

/-- What a mode acts through: the platform, the clock (in nanoseconds) and the lights. -/
structure Env (σ : Type) where
  platform : σ
  now : Nat := 0
  lights : Indicator := {}

namespace Env

/-- Performs one operation of the platform. -/
def perform (e : Env σ) (a : Action σ α) : Except PlatformError α × Env σ :=
  let x := a e.platform
  (x.1, { e with platform := x.2 })

def signal (e : Env σ) (s : Signal) (on : Bool) : Env σ :=
  { e with lights := e.lights.update s on }

end Env

def connectingSignal : InterfaceKind → Signal
  | .ethernet => .connectingEthernet
  | .wifi => .connectingWifi

def connectedSignal : Mode → InterfaceKind → Signal
  | .normal, .ethernet => .connectedEthernet
  | _, _ => .connectedWifi

namespace Link

variable (P : Platform σ)

/-! ## Sessions -/

/-- Gives a lease back and closes its session, whatever the platform answers. -/
def surrender (id : SessionId) (e : Env σ) : Env σ :=
  ((e.perform (P.release id)).2.perform (P.close id)).2

def hangUp (id : SessionId) (e : Env σ) : Env σ := (e.perform (P.close id)).2

/-! ## Start and stop -/

/-- Configures an interface and starts it. -/
def bringUp (name : String) (setup : InterfaceSetup) (e : Env σ) :
    Except PlatformError Unit × Env σ :=
  match e.perform (P.configure name setup) with
  | (.error err, e) => (.error err, e)
  | (.ok _, e) => e.perform (P.start name)

/-- Starts the mode's interface of a kind. -/
def start (kind : InterfaceKind) (p : Parameters) (m : ModeState) (e : Env σ) :
    Except Error Unit × ModeState × Env σ :=
  match m.interface? kind with
  | none => (.error (.noInterfaceOfKind m.mode kind), m, e)
  | some i =>
    match interfaceSetup m.mode kind p with
    | .error err => (.error err, m, e)
    | .ok setup =>
      match bringUp P i.name setup e with
      | (.error err, e) => (.error (.platform err), m, e.signal .errorHardware true)
      | (.ok _, e) =>
        (.ok (), { m with carrier := some ⟨i.name, kind⟩ }, e.signal (connectingSignal kind) true)

/-- Whether the interface is down, as the platform says; an interface that cannot be asked is. -/
def isDown (name : String) (e : Env σ) : Bool × Env σ :=
  match e.perform (P.status name) with
  | (.ok status, e) => (!status.isUp, e)
  | (.error _, e) => (true, e)

/-- Gives back what a connection held, once its interface is stopped: the DHCP server, the lease
    and the address. The connection has ended if the interface is down, else it is ending. -/
def tearDown (carrier : Carrier) (m : ModeState) (e : Env σ) : ModeState × Env σ :=
  let e := if m.serverRunning then (e.perform (P.stopServer carrier.name)).2 else e
  let e :=
    match m.client with
    | some c => surrender P c.session e
    | none => e
  let m :=
    { m with
      serverRunning := false, client := none, address := .unspecified, clients := 0,
      apStarted := false }
  let (down, e) := isDown P carrier.name e
  let m :=
    if down then { m with ifUp := false, linkUp := false, status := .disconnected }
    else { m with status := .disconnecting }
  let e := e.signal (connectingSignal carrier.kind) false
  (m, e.signal (connectedSignal m.mode carrier.kind) false)

/-- Stops the mode's interface. An interface that was not running counts as stopped; any other
    failure leaves the connection as it is. -/
def stop (m : ModeState) (e : Env σ) : Except Error Unit × ModeState × Env σ :=
  match m.carrier with
  | none => (.ok (), { m with status := .disconnected }, e)
  | some carrier =>
    match e.perform (P.stop carrier.name) with
    | (.ok _, e) => (.ok (), tearDown P carrier m e)
    | (.error err, e) =>
      if err.isStopped then (.ok (), tearDown P carrier m e)
      else (.error (.platform err), m, e.signal .errorHardware true)

/-- Starts the interface again, and stops it if that fails. -/
def restart (m : ModeState) (e : Env σ) : ModeState × Env σ :=
  match m.carrierName? with
  | none => (m, e)
  | some name =>
    match e.perform (P.start name) with
    | (.ok _, e) => (m, e)
    | (.error _, e) => (m, ((e.signal .errorHardware true).perform (P.stop name)).2)

/-! ## Addresses -/

/-- The connection is usable; earlier failures are made good. -/
def becomeConnected (m : ModeState) (e : Env σ) : ModeState × Env σ :=
  let e :=
    match m.carrierKind? with
    | some kind =>
      (e.signal (connectingSignal kind) false).signal (connectedSignal m.mode kind) true
    | none => e
  ({ m with status := .connected },
    (e.signal .errorHardware false).signal .dhcpRecovering false)

/-- Gives an interface a static address. -/
def setStatic (name : String) (texts : AddressTexts) (e : Env σ) :
    Option Addressing × Env σ :=
  match staticAddressing texts with
  | .error _ => (none, e)
  | .ok address =>
    match e.perform (P.setMethod name .static) with
    | (.error _, e) => (none, e)
    | (.ok _, e) =>
      match e.perform (P.setAddress name address) with
      | (.error _, e) => (none, e)
      | (.ok _, e) => (some address, e)

def assignStatic (name : String) (m : ModeState) (e : Env σ) : ModeState × Env σ :=
  match setStatic P name m.parameters.normal.ip e with
  | (some address, e) => becomeConnected { m with address } e
  | (none, e) => (m, e.signal .errorIpAddress true)

/-- What came of asking for a lease. -/
inductive Attempt where
  | leased (grant : Grant) (timers : Timers)
  | failed (failure : Option LeaseFailure)

/-- Asks for a lease and gives the interface its address. A lease that is too short, or whose
    address cannot be set, is a failure too. -/
def attempt (name : String) (ask : Action σ Grant) (e : Env σ) : Attempt × Env σ :=
  match e.perform ask with
  | (.error err, e) => (.failed err.leaseFailure?, e)
  | (.ok g, e) =>
    match Timers.ofServer g.leaseTime g.renewalTime g.rebindingTime with
    | .error _ => (.failed none, e)
    | .ok timers =>
      match e.perform (P.setAddress name g.addressing) with
      | (.error _, e) => (.failed none, e)
      | (.ok _, e) => (.leased g timers, e)

/-- Requests a lease in the open session. -/
def askForLease (name : String) (m : ModeState) (e : Env σ) : ModeState × Env σ :=
  match m.client with
  | none => (m, e)
  | some c =>
    match attempt P name (P.request c.session) e with
    | (.leased g timers, e) =>
      becomeConnected { m with client := some (c.granted timers e.now), address := g.addressing } e
    | (.failed failure, e) =>
      ({ m with client := some (c.failed .request e.now failure) },
        e.signal .errorHardware true)

/-- Renews the lease; a failure leaves the connection up. -/
def extendLease (name : String) (mode : Renewal) (m : ModeState) (e : Env σ) :
    ModeState × Env σ :=
  match m.client with
  | none => (m, e)
  | some c =>
    match attempt P name (P.renew c.session mode) e with
    | (.leased g timers, e) =>
      ({ m with client := some (c.granted timers e.now), address := g.addressing }, e)
    | (.failed failure, e) =>
      ({ m with client := some (c.failed mode.phase e.now failure) }, e)

/-- Opens a session for the interface's hardware address. -/
def openSession (name : String) (e : Env σ) : Except PlatformError SessionId × Env σ :=
  match e.perform (P.mac name) with
  | (.error err, e) => (.error err, e)
  | (.ok mac, e) => e.perform (P.openSession name mac)

/-- Has an address assigned: by the platform's own client where it runs one, else by a request in
    a session, which is opened if there is none. -/
def assignLease (name : String) (m : ModeState) (e : Env σ) : ModeState × Env σ :=
  if P.ownsDhcpClient e.platform then
    match e.perform (P.setMethod name .dhcp) with
    | (.ok _, e) => becomeConnected m e
    | (.error _, e) => (m, e.signal .errorHardware true)
  else
    match m.client with
    | some _ => askForLease P name m e
    | none =>
      match openSession P name e with
      | (.error _, e) => (m, e.signal .errorHardware true)
      | (.ok id, e) => askForLease P name { m with client := some { session := id } } e

/-- The address is given up and asked for anew. -/
def startOver (name : String) (m : ModeState) (e : Env σ) : ModeState × Env σ :=
  let e := (e.perform (P.setAddress name .unspecified)).2
  let m :=
    { m with
      address := .unspecified, client := m.client.map Client.forget, status := .connecting }
  let e :=
    match m.carrierKind? with
    | some kind =>
      (e.signal (connectedSignal m.mode kind) false).signal (connectingSignal kind) true
    | none => e
  askForLease P name m (e.signal .dhcpRecovering true)

/-! ## Links -/

/-- The link of a connecting mode is usable: it gets an address. -/
def gainLink (m : ModeState) (e : Env σ) : ModeState × Env σ :=
  match m.carrierName? with
  | none => (m, e)
  | some name =>
    if m.parameters.isStatic then assignStatic P name m e else assignLease P name m e

/-- The link is lost: the session is closed, the address given up, and a connected mode is
    connecting again. -/
def loseLink (m : ModeState) (e : Env σ) : ModeState × Env σ :=
  let e :=
    match m.client with
    | some c => hangUp P c.session e
    | none => e
  let m := { m with client := none, address := .unspecified }
  if m.status = .connected then
    let m := { m with status := .connecting }
    match m.carrierKind? with
    | some kind =>
      (m, (e.signal (connectedSignal m.mode kind) false).signal (connectingSignal kind) true)
    | none => (m, e)
  else (m, e)

/-- One second has passed: does what the lease needs, if the state allows it. -/
def tick (retry : Nat) (m : ModeState) (e : Env σ) : ModeState × Env σ :=
  if m.status = .disconnecting then (m, e)
  else
    match m.client, m.carrierName? with
    | some c, some name =>
      match c.due e.now retry with
      | .idle => (m, e)
      | .request =>
        if m.status = .connecting && m.ifUp && m.linkUp then askForLease P name m e else (m, e)
      | .renew mode => if m.status = .connected then extendLease P name mode m e else (m, e)
      | .recover => startOver P name m e
    | _, _ => (m, e)

/-! ## Access point -/

def startServer (name : String) (setup : ServerSetup) (e : Env σ) : Except Error Unit × Env σ :=
  match e.perform (P.startServer name setup) with
  | (.ok _, e) => (.ok (), e)
  | (.error err, e) => (.error (.dhcpServer err), e)

/-- The access point is up: it gets its address and a DHCP server, once. -/
def apReady (m : ModeState) (e : Env σ) : ModeState × Env σ :=
  if m.apStarted then (m, e)
  else
    match m.carrierName? with
    | none => (m, e)
    | some name =>
      let m := { m with ifUp := true, apStarted := true }
      match setStatic P name m.parameters.accessPoint.ip (e.signal .apStarted true) with
      | (none, e) => (m, e.signal .errorIpAddress true)
      | (some address, e) =>
        let m := { m with address }
        match startServer P name ⟨address.address, address.netmask⟩ e with
        | (.ok _, e) => ({ m with serverRunning := true }, e)
        | (.error _, e) => (m, e.signal .errorDhcpServer true)

/-- The largest number of clients that is told apart. -/
def clientsMax : Nat := 0xffffffff

/-- A client joins; the first connects the access point. -/
def clientJoined (m : ModeState) (e : Env σ) : ModeState × Env σ :=
  let m := { m with clients := min (m.clients + 1) clientsMax }
  if m.clients = 1 ∧ m.status = .connecting then
    ({ m with status := .connected }, e.signal .connectedWifi true)
  else (m, e)

/-- A client leaves; after the last the access point waits again. -/
def clientLeft (m : ModeState) (e : Env σ) : ModeState × Env σ :=
  if m.clients = 0 then (m, e)
  else
    let m := { m with clients := m.clients - 1 }
    if m.clients = 0 ∧ m.status = .connected then
      ({ m with status := .connecting }, e.signal .connectedWifi false)
    else (m, e)

end Link

end Connectivity
