/-
  Connectivity.Dispatch — how a mode answers an event of its interface. Ethernet, a Wi-Fi station
  and an access point each mind their own events; the rest change nothing.
-/

import Connectivity.Link

namespace Connectivity.Dispatch

variable {σ : Type} (P : Platform σ)

/-- The interface has gone down at last. -/
def settled (m : ModeState) : ModeState :=
  { m with ifUp := false, linkUp := false, status := .disconnected }

/-- Goes on once interface and link are both up, in whichever order they came. -/
def bothUp (m : ModeState) (e : Env σ) : ModeState × Env σ :=
  if m.status = .connecting && m.ifUp && m.linkUp then Link.gainLink P m e else (m, e)

def ethernet (event : Event) (m : ModeState) (e : Env σ) : ModeState × Env σ :=
  match event with
  | .ifUp => bothUp P { m with ifUp := true } e
  | .linkUp => bothUp P { m with linkUp := true } e
  | .ifDown => Link.loseLink P { m with ifUp := false, linkUp := false } e
  | .linkDown => Link.loseLink P { m with linkUp := false } e
  | _ => (m, e)

def station (event : Event) (m : ModeState) (e : Env σ) : ModeState × Env σ :=
  match event with
  | .stationConnected =>
    let m := { m with ifUp := true, linkUp := true }
    if m.status = .connecting then Link.gainLink P m e else (m, e)
  | .stationDisconnected =>
    let wasConnecting := m.status = .connecting
    let (m, e) := Link.loseLink P { m with linkUp := false } e
    if wasConnecting then Link.restart P m e else (m, e)
  | .stationStopped =>
    let m := { m with ifUp := false, linkUp := false }
    if m.status = .disconnecting then (settled m, e)
    else
      let (m, e) := Link.loseLink P m e
      Link.restart P m e
  | .ifDown => Link.loseLink P { m with linkUp := false } e
  | .linkDown => Link.loseLink P { m with linkUp := false } e
  | _ => (m, e)

def accessPoint (event : Event) (m : ModeState) (e : Env σ) : ModeState × Env σ :=
  match event with
  | .apStarted => if m.status = .connecting then Link.apReady P m e else (m, e)
  | .apClientJoined => Link.clientJoined m e
  | .apClientLeft => Link.clientLeft m e
  | _ => (m, e)

/-- The events of the interface a mode runs on, by mode and kind. -/
def byKind (event : Event) (m : ModeState) (e : Env σ) : ModeState × Env σ :=
  match m.mode, m.carrierKind? with
  | .accessPoint, _ => accessPoint P event m e
  | .normal, some .ethernet => ethernet P event m e
  | .normal, some .wifi => station P event m e
  | .normal, none => (m, e)

/-- One event of the mode's interface, with the retry interval of its leases. -/
def answer (retry : Nat) (event : Event) (m : ModeState) (e : Env σ) : ModeState × Env σ :=
  match event with
  | .tick => Link.tick P retry m e
  | .ifDown => if m.status = .disconnecting then (settled m, e) else byKind P .ifDown m e
  | event => byKind P event m e

end Connectivity.Dispatch
