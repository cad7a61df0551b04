/-
  Connectivity.Indicator — the status lights. Every update is remembered, the latest first; a
  status is lit if its latest update switched it on. Whether the hardware took an update is not
  asked: lights are best effort.
-/

namespace Connectivity

inductive Signal where
  | connectingEthernet
  | connectingWifi
  | connectedEthernet
  | connectedWifi
  | apStarted
  | dhcpRecovering
  | errorInvalidParameter
  | errorHardware
  | errorIpAddress
  | errorDhcpServer
  | errorNoConnectInfo
  deriving DecidableEq, Repr

/-- The light that shows a status. -/
inductive Light where
  | connection
  | error
  deriving DecidableEq, Repr

def Signal.light : Signal → Light
  | .connectingEthernet => .connection
  | .connectingWifi => .connection
  | .connectedEthernet => .connection
  | .connectedWifi => .connection
  | .apStarted => .connection
  | .dhcpRecovering => .connection
  | .errorInvalidParameter => .error
  | .errorHardware => .error
  | .errorIpAddress => .error
  | .errorDhcpServer => .error
  | .errorNoConnectInfo => .error

/-- The lights of a device; a board without lights remembers nothing. -/
structure Indicator where
  present : Bool := true
  updates : List (Signal × Bool) := []
  deriving DecidableEq, Repr

namespace Indicator

def update (i : Indicator) (s : Signal) (on : Bool) : Indicator :=
  if i.present then { i with updates := (s, on) :: i.updates } else i

/-- Whether the latest update of `s` switched it on. -/
def shows (i : Indicator) (s : Signal) : Bool :=
  ((i.updates.find? (fun u => u.1 = s)).map (·.2)).getD false

/-- Whether `s` was ever switched on. -/
def everShown (i : Indicator) (s : Signal) : Bool := i.updates.any (fun u => u.1 = s && u.2)

def clear (i : Indicator) : Indicator := { i with updates := [] }

theorem shows_update {i : Indicator} (h : i.present = true) (s s' : Signal) (on : Bool) :
    (i.update s on).shows s' = if s = s' then on else i.shows s' := by
  by_cases hs : s = s' <;> simp [update, shows, h, hs]

end Indicator

end Connectivity
