/-
  Connectivity.Mode — the two connections of a device and the words for their state: the normal
  connection to a network over Ethernet or as a Wi-Fi station, and the device's own access point.
-/

namespace Connectivity

inductive Mode where
  | normal
  | accessPoint
  deriving DecidableEq, Repr

namespace Mode

def all : List Mode := [.normal, .accessPoint]

def index : Mode → Nat
  | .normal => 0
  | .accessPoint => 1

def text : Mode → String
  | .normal => "normal"
  | .accessPoint => "access-point"

/-- The mode's name in reports. -/
def label : Mode → String
  | .normal => "Normal"
  | .accessPoint => "AccessPoint"

end Mode

/-- What a handle may be used for: starting and stopping, or queries only. -/
inductive Access where
  | control
  | information
  deriving DecidableEq, Repr

def Access.label : Access → String
  | .control => "Control"
  | .information => "Information"

inductive Status where
  | disconnected
  | connecting
  | connected
  | disconnecting
  deriving DecidableEq, Repr

namespace Status

def text : Status → String
  | .disconnected => "disconnected"
  | .connecting => "connecting"
  | .connected => "connected"
  | .disconnecting => "disconnecting"

def label : Status → String
  | .disconnected => "Disconnected"
  | .connecting => "Connecting"
  | .connected => "Connected"
  | .disconnecting => "Disconnecting"

/-- Whether a connection is up or on its way up, so that it can be stopped. -/
def isRunning : Status → Bool
  | .connecting => true
  | .connected => true
  | _ => false

end Status

/-- The status that a registered callback is told. -/
inductive Standing where
  | disconnected
  | connected
  /-- The access point is up and waits for clients. -/
  | apStart
  deriving DecidableEq, Repr

def Standing.label : Standing → String
  | .disconnected => "Disconnected"
  | .connected => "Connected"
  | .apStart => "ApStart"

end Connectivity
