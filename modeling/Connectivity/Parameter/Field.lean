/-
  Connectivity.Parameter.Field — the twenty-five leaf fields of the parameters, nineteen texts
  and six integers, in the order in which they are checked and stored; and sets of fields, one
  bit each.
-/

import Connectivity.Parameter.Basic

namespace Connectivity

inductive TextField where
  | normalAddress
  | normalNetmask
  | normalGateway
  | normalDns
  | normalAddress6
  | normalNetmask6
  | normalGateway6
  | normalDns6
  | stationSsid
  | stationPassword
  | apAddress
  | apNetmask
  | apGateway
  | apDns
  | apSsid
  | apPassword
  | proxyUrl
  | proxyUsername
  | proxyPassword
  deriving DecidableEq, Repr

inductive NumberField where
  | ipMethod
  | netifKind
  | stationEncryption
  | apEncryption
  | apChannel
  | proxyPort
  deriving DecidableEq, Repr

inductive Field where
  | text (f : TextField)
  | number (f : NumberField)
  deriving DecidableEq, Repr

/-! ## Reading and writing a field -/

def TextField.get (p : Parameters) : TextField → String
  | .normalAddress => p.normal.ip.address
  | .normalNetmask => p.normal.ip.netmask
  | .normalGateway => p.normal.ip.gateway
  | .normalDns => p.normal.ip.dns
  | .normalAddress6 => p.normal.ipv6.address
  | .normalNetmask6 => p.normal.ipv6.netmask
  | .normalGateway6 => p.normal.ipv6.gateway
  | .normalDns6 => p.normal.ipv6.dns
  | .stationSsid => p.normal.station.ssid
  | .stationPassword => p.normal.station.password
  | .apAddress => p.accessPoint.ip.address
  | .apNetmask => p.accessPoint.ip.netmask
  | .apGateway => p.accessPoint.ip.gateway
  | .apDns => p.accessPoint.ip.dns
  | .apSsid => p.accessPoint.ap.ssid
  | .apPassword => p.accessPoint.ap.password
  | .proxyUrl => p.proxy.url
  | .proxyUsername => p.proxy.username
  | .proxyPassword => p.proxy.password

def TextField.set (p : Parameters) (s : String) : TextField → Parameters
  | .normalAddress => { p with normal.ip.address := s }
  | .normalNetmask => { p with normal.ip.netmask := s }
  | .normalGateway => { p with normal.ip.gateway := s }
  | .normalDns => { p with normal.ip.dns := s }
  | .normalAddress6 => { p with normal.ipv6.address := s }
  | .normalNetmask6 => { p with normal.ipv6.netmask := s }
  | .normalGateway6 => { p with normal.ipv6.gateway := s }
  | .normalDns6 => { p with normal.ipv6.dns := s }
  | .stationSsid => { p with normal.station.ssid := s }
  | .stationPassword => { p with normal.station.password := s }
  | .apAddress => { p with accessPoint.ip.address := s }
  | .apNetmask => { p with accessPoint.ip.netmask := s }
  | .apGateway => { p with accessPoint.ip.gateway := s }
  | .apDns => { p with accessPoint.ip.dns := s }
  | .apSsid => { p with accessPoint.ap.ssid := s }
  | .apPassword => { p with accessPoint.ap.password := s }
  | .proxyUrl => { p with proxy.url := s }
  | .proxyUsername => { p with proxy.username := s }
  | .proxyPassword => { p with proxy.password := s }

def NumberField.get (p : Parameters) : NumberField → Int
  | .ipMethod => p.normal.ipMethod
  | .netifKind => p.normal.netifKind
  | .stationEncryption => p.normal.station.encryption
  | .apEncryption => p.accessPoint.ap.encryption
  | .apChannel => p.accessPoint.ap.channel
  | .proxyPort => p.proxy.tcpPort

def NumberField.set (p : Parameters) (n : Int) : NumberField → Parameters
  | .ipMethod => { p with normal.ipMethod := n }
  | .netifKind => { p with normal.netifKind := n }
  | .stationEncryption => { p with normal.station.encryption := n }
  | .apEncryption => { p with accessPoint.ap.encryption := n }
  | .apChannel => { p with accessPoint.ap.channel := n }
  | .proxyPort => { p with proxy.tcpPort := n }

/-! ## All fields -/

namespace Field

/-- The fields in the order in which they are checked and stored. -/
def all : List Field :=
  [ .text .normalAddress, .text .normalNetmask, .text .normalGateway, .text .normalDns,
    .text .normalAddress6, .text .normalNetmask6, .text .normalGateway6, .text .normalDns6,
    .number .ipMethod, .number .netifKind,
    .text .stationSsid, .text .stationPassword, .number .stationEncryption,
    .text .apAddress, .text .apNetmask, .text .apGateway, .text .apDns,
    .text .apSsid, .text .apPassword, .number .apEncryption, .number .apChannel,
    .text .proxyUrl, .number .proxyPort, .text .proxyUsername, .text .proxyPassword ]

/-- The bit of a field in a mask, which is its place in `all`. -/
def bit (f : Field) : Nat := all.idxOf f

/-- The field's name in the store. -/
def key : Field → String
  | .text .normalAddress => "normal.ip_address"
  | .text .normalNetmask => "normal.subnet_mask"
  | .text .normalGateway => "normal.gateway"
  | .text .normalDns => "normal.dns"
  | .text .normalAddress6 => "normal.ip_address_v6"
  | .text .normalNetmask6 => "normal.subnet_mask_v6"
  | .text .normalGateway6 => "normal.gateway_v6"
  | .text .normalDns6 => "normal.dns_v6"
  | .number .ipMethod => "normal.ip_method"
  | .number .netifKind => "normal.netif_kind"
  | .text .stationSsid => "normal.sta_ssid"
  | .text .stationPassword => "normal.sta_password"
  | .number .stationEncryption => "normal.sta_encryption"
  | .text .apAddress => "ap.ip_address"
  | .text .apNetmask => "ap.subnet_mask"
  | .text .apGateway => "ap.gateway"
  | .text .apDns => "ap.dns"
  | .text .apSsid => "ap.ssid"
  | .text .apPassword => "ap.password"
  | .number .apEncryption => "ap.encryption"
  | .number .apChannel => "ap.channel"
  | .text .proxyUrl => "proxy.url"
  | .number .proxyPort => "proxy.port"
  | .text .proxyUsername => "proxy.username"
  | .text .proxyPassword => "proxy.password"

/-- The field's place in the parameters, as a rejection names it. -/
def path : Field → String
  | .text .normalAddress => "normal.dev_ip.ip_address"
  | .text .normalNetmask => "normal.dev_ip.subnet_mask"
  | .text .normalGateway => "normal.dev_ip.gateway"
  | .text .normalDns => "normal.dev_ip.dns"
  | .text .normalAddress6 => "normal.dev_ip_v6.ip_address"
  | .text .normalNetmask6 => "normal.dev_ip_v6.subnet_mask"
  | .text .normalGateway6 => "normal.dev_ip_v6.gateway"
  | .text .normalDns6 => "normal.dev_ip_v6.dns"
  | .number .ipMethod => "normal.ip_method"
  | .number .netifKind => "normal.netif_kind"
  | .text .stationSsid => "normal.wifi_sta.ssid"
  | .text .stationPassword => "normal.wifi_sta.password"
  | .number .stationEncryption => "normal.wifi_sta.encryption"
  | .text .apAddress => "access_point.dev_ip.ip_address"
  | .text .apNetmask => "access_point.dev_ip.subnet_mask"
  | .text .apGateway => "access_point.dev_ip.gateway"
  | .text .apDns => "access_point.dev_ip.dns"
  | .text .apSsid => "access_point.wifi_ap.ssid"
  | .text .apPassword => "access_point.wifi_ap.password"
  | .number .apEncryption => "access_point.wifi_ap.encryption"
  | .number .apChannel => "access_point.wifi_ap.channel"
  | .text .proxyUrl => "proxy.url"
  | .number .proxyPort => "proxy.port"
  | .text .proxyUsername => "proxy.username"
  | .text .proxyPassword => "proxy.password"

end Field

/-- The bytes that hold a stored text, its terminator included. -/
def TextField.capacity : TextField → Nat
  | .stationSsid => 33
  | .apSsid => 33
  | .stationPassword => 65
  | .apPassword => 65
  | .proxyUrl => 257
  | .proxyUsername => 33
  | .proxyPassword => 33
  | _ => 40

/-! ## Masks -/

/-- A set of fields. -/
structure Mask where
  bits : BitVec 25
  deriving DecidableEq, Repr

namespace Mask

/-- The mask of a number, whose bits past the last field are dropped. -/
def ofNat (n : Nat) : Mask := ⟨BitVec.ofNat 25 n⟩

def toNat (m : Mask) : Nat := m.bits.toNat

def has (m : Mask) (f : Field) : Bool := m.bits.getLsbD f.bit

def isEmpty (m : Mask) : Bool := m.bits == 0

def union (m n : Mask) : Mask := ⟨m.bits ||| n.bits⟩

def empty : Mask := ⟨0⟩

def single (f : Field) : Mask := ⟨BitVec.twoPow 25 f.bit⟩

def ofFields (fs : List Field) : Mask := fs.foldl (fun m f => m.union (single f)) empty

/-- The selected fields in their order. -/
def fields (m : Mask) : List Field := Field.all.filter m.has

/-- The fields of the normal connection's addresses and of its method and kind, which a
    connection over Ethernet depends on. -/
def ethernet : Mask :=
  ofFields
    [ .text .normalAddress, .text .normalNetmask, .text .normalGateway, .text .normalDns,
      .text .normalAddress6, .text .normalNetmask6, .text .normalGateway6, .text .normalDns6,
      .number .ipMethod, .number .netifKind ]

def station : Mask :=
  ofFields [.text .stationSsid, .text .stationPassword, .number .stationEncryption]

def normal : Mask := ethernet.union station

def accessPoint : Mask :=
  ofFields
    [ .text .apAddress, .text .apNetmask, .text .apGateway, .text .apDns,
      .text .apSsid, .text .apPassword, .number .apEncryption, .number .apChannel ]

def proxy : Mask :=
  ofFields [.text .proxyUrl, .number .proxyPort, .text .proxyUsername, .text .proxyPassword]

/-- The fields that a connection of a mode over a kind of interface depends on. -/
def needed : Mode → InterfaceKind → Mask
  | .normal, .ethernet => ethernet
  | .normal, .wifi => normal
  | .accessPoint, _ => accessPoint

end Mask

def SectionName.mask : SectionName → Mask
  | .normal => .normal
  | .accessPoint => .accessPoint
  | .proxy => .proxy

end Connectivity
