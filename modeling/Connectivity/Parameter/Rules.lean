/-
  Connectivity.Parameter.Rules — which parameters are accepted. Each field has one rule, which is
  looked at only if the mask selects the field; the first selected field whose rule fails is the
  one that a rejection names. A record that is only kept may leave texts empty that a connection
  needs. Lengths are in bytes of UTF-8, and a text leaves room for a terminator in its buffer.
-/

import Connectivity.Error
import Connectivity.Net.Ipv6

namespace Connectivity

namespace Rules

open Net (Ipv4)

/-- From `low` bytes up to one less than the buffer holds. -/
def fits (low buffer : Nat) (s : String) : Bool :=
  decide (low ≤ s.utf8ByteSize) && decide (s.utf8ByteSize < buffer)

/-- Only the printable characters of ASCII. -/
def printable (s : String) : Bool :=
  s.toList.all (fun c => 0x20 ≤ c.toNat && c.toNat ≤ 0x7E)

def between (low high n : Int) : Bool := decide (low ≤ n ∧ n ≤ high)

def emptyOrIpv4 (s : String) : Bool :=
  s.isEmpty || (decide (s.utf8ByteSize < 40) && (Ipv4.ofString? s).isSome)

def emptyOrIpv6 (s : String) : Bool :=
  s.isEmpty || (decide (s.utf8ByteSize < 40) && Net.Ipv6.isAddress s.toList)

def ipv4Text (required : Bool) (s : String) : Bool :=
  if s.isEmpty then !required else emptyOrIpv4 s

/-- The length of a pre-shared key written in hex. -/
def keyLength : Nat := 64

/-- A pre-shared key: sixty-four hex digits, or a printable passphrase of eight to sixty-three
    characters. -/
def isKey (s : String) : Bool :=
  if s.utf8ByteSize = keyLength then s.toList.all Net.Ipv6.isHexDigit
  else fits 8 keyLength s && printable s

/-- An empty password is that of an open network; one that is only kept has to fit. -/
def stationKey (purpose : Purpose) (s : String) : Bool :=
  s.isEmpty ||
    match purpose with
    | .save => fits 0 65 s
    | .connect => isKey s

def apKey (purpose : Purpose) (s : String) : Bool :=
  if s.isEmpty then purpose = .save else isKey s

/-- The least length or number where a connection needs a value. -/
def least (purpose : Purpose) : Nat :=
  match purpose with
  | .connect => 1
  | .save => 0

end Rules

open Rules

/-- The rule of a field. The addresses of the normal connection are required where it connects
    with a static address. -/
def Field.accepts (purpose : Purpose) (p : Parameters) : Field → Bool
  | .text .normalAddress =>
    ipv4Text (purpose = .connect && p.isStatic) p.normal.ip.address
  | .text .normalNetmask =>
    ipv4Text (purpose = .connect && p.isStatic) p.normal.ip.netmask
  | .text .normalGateway => emptyOrIpv4 p.normal.ip.gateway
  | .text .normalDns => emptyOrIpv4 p.normal.ip.dns
  | .text .normalAddress6 => emptyOrIpv6 p.normal.ipv6.address
  | .text .normalNetmask6 => emptyOrIpv6 p.normal.ipv6.netmask
  | .text .normalGateway6 => emptyOrIpv6 p.normal.ipv6.gateway
  | .text .normalDns6 => emptyOrIpv6 p.normal.ipv6.dns
  | .number .ipMethod => between 0 1 p.normal.ipMethod
  | .number .netifKind => between 0 1 p.normal.netifKind
  | .text .stationSsid => fits (least purpose) 33 p.normal.station.ssid
  | .text .stationPassword => stationKey purpose p.normal.station.password
  | .number .stationEncryption => between 0 2 p.normal.station.encryption
  | .text .apAddress => ipv4Text (purpose = .connect) p.accessPoint.ip.address
  | .text .apNetmask => ipv4Text (purpose = .connect) p.accessPoint.ip.netmask
  | .text .apGateway => emptyOrIpv4 p.accessPoint.ip.gateway
  | .text .apDns => emptyOrIpv4 p.accessPoint.ip.dns
  | .text .apSsid =>
    fits (least purpose) 33 p.accessPoint.ap.ssid && printable p.accessPoint.ap.ssid
  | .text .apPassword => apKey purpose p.accessPoint.ap.password
  | .number .apEncryption => between 0 2 p.accessPoint.ap.encryption
  | .number .apChannel => between (least purpose) 14 p.accessPoint.ap.channel
  | .text .proxyUrl => fits 0 257 p.proxy.url
  | .number .proxyPort => between 0 65535 p.proxy.tcpPort
  | .text .proxyUsername => fits 0 33 p.proxy.username
  | .text .proxyPassword => fits 0 33 p.proxy.password

/-- Checks the selected fields in their order, up to the first that is rejected. -/
def validate (m : Mask) (p : Parameters) (purpose : Purpose) : Except Error Unit :=
  match m.fields.find? (fun f => !f.accepts purpose p) with
  | some f => .error (.rejected f purpose)
  | none => .ok ()

end Connectivity
