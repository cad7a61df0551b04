/-
  Connectivity.Parameter.Basic — the connection parameters as provisioning hands them in: texts
  and plain integers, in three sections. An empty text means that a value is not set. Integers
  that stand for a choice stay raw here and are read by the functions below.
-/

import Connectivity.Mode
import Connectivity.Platform

namespace Connectivity

structure AddressTexts where
  address : String := ""
  netmask : String := ""
  gateway : String := ""
  dns : String := ""
  deriving DecidableEq, Repr

structure StationSetting where
  ssid : String := ""
  password : String := ""
  encryption : Int := 0
  deriving DecidableEq, Repr

structure ApSetting where
  ssid : String := ""
  password : String := ""
  encryption : Int := 0
  channel : Int := 0
  deriving DecidableEq, Repr

structure NormalSection where
  ip : AddressTexts := {}
  ipv6 : AddressTexts := {}
  ipMethod : Int := 0
  netifKind : Int := 0
  station : StationSetting := {}
  deriving DecidableEq, Repr

structure AccessPointSection where
  ip : AddressTexts := {}
  ap : ApSetting := {}
  deriving DecidableEq, Repr

structure ProxySection where
  url : String := ""
  tcpPort : Int := 0
  username : String := ""
  password : String := ""
  deriving DecidableEq, Repr

structure Parameters where
  normal : NormalSection := {}
  accessPoint : AccessPointSection := {}
  proxy : ProxySection := {}
  deriving DecidableEq, Repr

/-! ## Raw integers -/

def AddressMethod.ofRaw? (n : Int) : Option AddressMethod :=
  if n = 0 then some .dhcp else if n = 1 then some .static else none

def InterfaceKind.ofRaw? (n : Int) : Option InterfaceKind :=
  if n = 0 then some .wifi else if n = 1 then some .ethernet else none

def InterfaceKind.toRaw : InterfaceKind → Int
  | .wifi => 0
  | .ethernet => 1

def Security.ofRaw? (n : Int) : Option Security :=
  if n = 0 then some .wpa2 else if n = 1 then some .wpa3 else if n = 2 then some .wpa2wpa3
  else none

/-- Whether the normal connection takes its address from the parameters. -/
def Parameters.isStatic (p : Parameters) : Bool :=
  AddressMethod.ofRaw? p.normal.ipMethod = some .static

/-! ## Sections -/

inductive SectionName where
  | normal
  | accessPoint
  | proxy
  deriving DecidableEq, Repr

/-- One section of the parameters. -/
inductive Section where
  | normal (s : NormalSection)
  | accessPoint (s : AccessPointSection)
  | proxy (s : ProxySection)
  deriving DecidableEq, Repr

namespace Section

def name : Section → SectionName
  | .normal _ => .normal
  | .accessPoint _ => .accessPoint
  | .proxy _ => .proxy

/-- The section in parameters that are otherwise not set. -/
def toParameters : Section → Parameters
  | .normal s => { normal := s }
  | .accessPoint s => { accessPoint := s }
  | .proxy s => { proxy := s }

def ofParameters (p : Parameters) : SectionName → Section
  | .normal => .normal p.normal
  | .accessPoint => .accessPoint p.accessPoint
  | .proxy => .proxy p.proxy

theorem ofParameters_toParameters (s : Section) : ofParameters s.toParameters s.name = s := by
  cases s <;> rfl

end Section

/-! ## Redaction -/

/-- What stands for a password in reports; an empty one stays empty. -/
def redact (secret : String) : String := if secret.isEmpty then "" else "********"

/-- The parameters with every password replaced. -/
def Parameters.redacted (p : Parameters) : Parameters :=
  { p with
    normal.station.password := redact p.normal.station.password
    accessPoint.ap.password := redact p.accessPoint.ap.password
    proxy.password := redact p.proxy.password }

end Connectivity
