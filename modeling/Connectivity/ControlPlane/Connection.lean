/-
  Connectivity.ControlPlane.Connection — starting and stopping the connection of a mode, and asking
  about it.
-/

import Connectivity.ControlPlane.Lifetime
import Connectivity.Parameter.Rules
import Connectivity.Parameter.Stored

namespace Connectivity

/-- Where a start takes its parameters from. -/
inductive ParameterSource where
  | given (p : Parameters)
  | storage
  /-- Those of the last start that succeeded. -/
  | lastSaved
  deriving DecidableEq, Repr

/-- What is known about a connection. -/
structure Snapshot where
  mode : Mode
  status : Status
  told : Standing
  carrier : Option Carrier
  parameters : Parameters
  address : Addressing
  clients : Nat
  lease : Option Timers
  deriving DecidableEq, Repr

def ModeState.snapshot (m : ModeState) : Snapshot :=
  { mode := m.mode, status := m.status, told := m.told, carrier := m.carrier,
    parameters := m.parameters, address := m.address, clients := m.clients,
    lease := m.client.bind (·.lease) }

namespace ControlPlane

variable {σ τ α : Type} (M : ControlPlane σ τ)

/-! ## Start -/

/-- The field whose presence in the store says that a mode's section was saved. -/
def probe : Mode → Field
  | .normal => .number .netifKind
  | .accessPoint => .text .apSsid

def sectionOf : Mode → SectionName
  | .normal => .normal
  | .accessPoint => .accessPoint

/-- The stored section of a mode, in parameters that are otherwise not set. -/
def storedParameters (mode : Mode) : Operation σ τ Parameters := fun s =>
  match holds M.store (.single (probe mode)) s.store with
  | (.error err, store) => (.error err, { s with store })
  | (.ok false, store) => (.error .noConnectInfo, { s with store })
  | (.ok true, store) =>
    let (loaded, store) := loadFields M.store (sectionOf mode).mask {} store
    (loaded.result.map (fun _ => loaded.parameters), { s with store })

/-- The parameters of a start. A light tells that there are none. -/
def resolve (m : ModeState) : ParameterSource → Operation σ τ Parameters
  | .given p, s => (.ok p, s)
  | .lastSaved, s =>
    match m.saved with
    | some p => (.ok p, s)
    | none => (.error .noConnectInfo, s.signal .errorNoConnectInfo true)
  | .storage, s =>
    match M.storedParameters m.mode s with
    | (.error .noConnectInfo, s) => (.error .noConnectInfo, s.signal .errorNoConnectInfo true)
    | (result, s) => (result, s)

/-- The kind of interface that parameters ask for, if a connection can be made with them. -/
def checkedKind (mode : Mode) (p : Parameters) : Except Error InterfaceKind :=
  let kind? :=
    match mode with
    | .normal => InterfaceKind.ofRaw? p.normal.netifKind
    | .accessPoint => some .wifi
  match kind? with
  | none => .error (.badInterfaceKind p.normal.netifKind)
  | some kind => (validate (.needed mode kind) p .connect).map (fun _ => kind)

/-- Brings up the interface for parameters that were checked. What an earlier connection left
    behind is cleared first; the parameters are kept only if the interface starts. -/
def bringUp (m : ModeState) (kind : InterfaceKind) (p : Parameters) : Operation σ τ Unit := fun s =>
  match Link.start M.platform kind p m.cleared s.env with
  | (.error err, m, env) => (.error err, s.update m.mode (m, env))
  | (.ok _, m, env) =>
    let m := { m with saved := some p, status := .connecting }
    (.ok (), (s.update m.mode (m, env)).tell m.mode)

/-- Starts the connection of a handle's mode. -/
def start (h : Handle) (source : ParameterSource) : Operation σ τ Unit :=
  withMode h true (fun m s =>
    if m.status ≠ .disconnected then (.error (.alreadyRunning m.mode m.status), s)
    else
      match M.resolve m source s with
      | (.error err, s) => (.error err, s)
      | (.ok p, s) =>
        match checkedKind m.mode p with
        | .error err => (.error err, s.signal .errorInvalidParameter true)
        | .ok kind => M.bringUp m kind p s)

/-! ## Stop -/

/-- Announces the stop of an interface; the pre-teardown event is handled if it arrives in
    time. -/
def announceStop (name : String) (s : State σ τ) : State σ τ :=
  match s.env.perform (M.platform.announceStop name) with
  | (.ok true, env) => M.receive name .ifDownPre { s with env }
  | (_, env) => { s with env }

namespace State

/-- Arms the latch of a mode, whatever tripped it before. -/
def rearm (s : State σ τ) (mode : Mode) : State σ τ :=
  { s with latches := fun mode' => if mode' = mode then (s.latches mode).rearm else s.latches mode' }

/-- Waits at the latch of a mode; whether the wait was ended by a trip. -/
def await (s : State σ τ) (mode : Mode) : Bool × State σ τ :=
  ((s.latches mode).await.1,
    { s with latches := fun mode' => if mode' = mode then (s.latches mode).await.2 else s.latches mode' })

end State

/-- Announces the stop of a mode's interface and waits at the mode's latch, until the pre-teardown
    event was handled or the time for it is over. Which of the two it was is only logged. Where the
    platform refuses, no event comes and the wait is over at once. -/
def releaseBeforeStop (mode : Mode) (name : String) (s : State σ τ) : Bool × State σ τ :=
  (M.announceStop name (s.rearm mode)).await mode

/-- What a stop does while others may have the lock. -/
def prepareStop (m : ModeState) (s : State σ τ) : State σ τ :=
  let s :=
    match m.carrierName? with
    | some name => (M.releaseBeforeStop m.mode name s).2
    | none => s
  { s with roster := s.roster.yield }

/-- Stops a mode's interface and tells its callback, even if that fails. The lock is taken once
    more for it, and if that takes too long nothing is stopped. -/
def takeDown (mode : Mode) : Operation σ τ Unit := fun s =>
  match s.roster.lock with
  | .error err => (.error err, s)
  | .ok modes =>
    let (result, x) := Link.stop M.platform (modes.get mode) s.env
    (result, (s.update mode x).tell mode)

/-- Stops the connection of a handle's mode. -/
def stop (h : Handle) : Operation σ τ Unit :=
  withMode h true (fun m s =>
    if m.status.isRunning then M.takeDown m.mode (M.prepareStop m s)
    else (.error (.alreadyRunning m.mode m.status), s))

/-! ## Queries -/

/-- Whether interface and link of a handle's mode are up. -/
def flags (h : Handle) : Operation σ τ (Bool × Bool) :=
  withMode h false (fun m s => (.ok (m.ifUp, m.linkUp), s))

def snapshot (h : Handle) : Operation σ τ Snapshot :=
  withMode h false (fun m s => (.ok m.snapshot, s))

/-- The signal strength of the Wi-Fi station's link. -/
def rssi (h : Handle) : Operation σ τ Int :=
  withMode h false (fun m s =>
    match m.mode, m.carrier with
    | .normal, some ⟨name, .wifi⟩ =>
      match s.env.perform (M.platform.status name) with
      | (.error err, env) => (.error (.platform err), { s with env })
      | (.ok status, env) => (.ok status.rssi, { s with env })
    | _, _ => (.error (.notStation m.mode), s))

/-- The platform's account of the mode's interface. -/
def netstat (h : Handle) : Operation σ τ String :=
  withMode h false (fun m s =>
    match m.queryName? with
    | none => (.error (.noInterface m.mode), s)
    | some name =>
      match s.env.perform (M.platform.netstat name) with
      | (.error err, env) => (.error (.platform err), { s with env })
      | (.ok text, env) => (.ok text, { s with env }))

/-! ## Callbacks -/

/-- Registers the callback of a handle's mode, of which there is at most one. -/
def listen (h : Handle) : Operation σ τ Unit :=
  withMode h false (fun m s =>
    if m.listening then (.error .callbackRegistered, s)
    else (.ok (), s.update m.mode ({ m with listening := true }, s.env)))

def unlisten (h : Handle) : Operation σ τ Unit :=
  withMode h false (fun m s =>
    if m.listening then (.ok (), s.update m.mode ({ m with listening := false }, s.env))
    else (.error .callbackUnregistered, s))

/-! ## Parameters -/

/-- Keeps the selected fields, if they are valid. -/
def saveParameters (mask : Mask) (p : Parameters) : Operation σ τ Unit := fun s =>
  if mask.isEmpty then (.error .emptyMask, s)
  else
    match s.roster.lock with
    | .error err => (.error err, s)
    | .ok _ =>
      match validate mask p .save with
      | .error err => (.error err, s)
      | .ok _ =>
        let (result, store) := saveFields M.store mask p s.store
        (result, { s with store })

/-- What a call works on: fields that were selected and a record of its own. -/
structure Work where
  mask : Mask
  parameters : Parameters := {}
  deriving DecidableEq, Repr

/-- Fills the selected fields of the caller's record with what is stored. The fields are read into a
    copy, which takes the place of the caller's record only when all of them were read. -/
def loadParameters (mask : Mask) (p : Parameters) (s : State σ τ) :
    Except Error Unit × Parameters × State σ τ :=
  if mask.isEmpty then (.error .emptyMask, p, s)
  else
    match s.roster.lock with
    | .error err => (.error err, p, s)
    | .ok _ =>
      let work : Work := { mask, parameters := p }
      let (loaded, store) := loadFields M.store work.mask work.parameters s.store
      let work := { work with parameters := loaded.parameters }
      match loaded.result with
      | .error err => (.error err, p, { s with store })
      | .ok _ => (.ok (), work.parameters, { s with store })

theorem loadParameters_of_lock {s : State σ τ} {modes : Modes} (hlock : s.roster.lock = .ok modes) {mask : Mask}
    (hm : mask.isEmpty = false) (p : Parameters) :
    M.loadParameters mask p s =
      let (loaded, store) := loadFields M.store mask p s.store
      match loaded.result with
      | .error err => (.error err, p, { s with store })
      | .ok _ => (.ok (), loaded.parameters, { s with store }) := by
  simp [loadParameters, hlock, hm]

def saveSection (x : Section) : Operation σ τ Unit := M.saveParameters x.name.mask x.toParameters

def loadSection (name : SectionName) : Operation σ τ Section := fun s =>
  let (result, p, s) := M.loadParameters name.mask {} s
  (result.map (fun _ => Section.ofParameters p name), s)

end ControlPlane

end Connectivity
