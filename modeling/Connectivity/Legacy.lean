/-
  Connectivity.Legacy — importing the settings of an older firmware, once, item by item. The
  interface kind has to be there and to be known; every other item is kept if it can be read and
  is valid, and passed over if not, so that a device still comes up with part of its settings. An
  item is text that ends at the first zero byte, and integers are written in decimal.
-/

import Connectivity.ControlPlane.Connection
import Connectivity.Text.Blank

namespace Connectivity

inductive LegacyItem where
  | netifKind
  | ipMethod
  | staticAddress
  | staticNetmask
  | staticGateway
  | staticDns
  | wifiSsid
  | wifiPassword
  | proxyUrl
  | proxyPort
  | proxyUsername
  | proxyPassword
  deriving DecidableEq, Repr

namespace LegacyItem

def text : LegacyItem → String
  | .netifKind => "netif_kind"
  | .ipMethod => "ip_method"
  | .staticAddress => "static_ip_address"
  | .staticNetmask => "static_subnet_mask"
  | .staticGateway => "static_gateway"
  | .staticDns => "static_dns"
  | .wifiSsid => "wifi_ssid"
  | .wifiPassword => "wifi_password"
  | .proxyUrl => "proxy_url"
  | .proxyPort => "proxy_port"
  | .proxyUsername => "proxy_username"
  | .proxyPassword => "proxy_password"

/-- The field that an item is imported into. -/
def field : LegacyItem → Field
  | .netifKind => .number .netifKind
  | .ipMethod => .number .ipMethod
  | .staticAddress => .text .normalAddress
  | .staticNetmask => .text .normalNetmask
  | .staticGateway => .text .normalGateway
  | .staticDns => .text .normalDns
  | .wifiSsid => .text .stationSsid
  | .wifiPassword => .text .stationPassword
  | .proxyUrl => .text .proxyUrl
  | .proxyPort => .number .proxyPort
  | .proxyUsername => .text .proxyUsername
  | .proxyPassword => .text .proxyPassword

/-- Whether an item means something only for a Wi-Fi connection. -/
def wifiOnly : LegacyItem → Bool
  | .wifiSsid => true
  | .wifiPassword => true
  | _ => false

/-- The items that may be missing, in the order of their import. -/
def optional : List LegacyItem :=
  [.ipMethod, .staticAddress, .staticNetmask, .staticGateway, .staticDns, .wifiSsid,
    .wifiPassword, .proxyUrl, .proxyPort, .proxyUsername, .proxyPassword]

end LegacyItem

/-- Where older settings come from, over a state of its own. -/
structure LegacySource (μ : Type) where
  needsImport : InterfaceKind → μ → Bool
  connect : Action μ Unit
  disconnect : Action μ Unit
  item : LegacyItem → Action μ (List UInt8)

namespace Legacy

/-! ## Values -/

/-- The text before the first zero byte. -/
def itemText (raw : List UInt8) : Except Error String :=
  match Text.Utf8.decode (raw.takeWhile (fun b => b ≠ 0)) with
  | .ok cs => .ok (String.ofList cs)
  | .error e => .error (.legacyText e)

/-- The integer that the text is but for blanks around it. -/
def itemNumber (raw : List UInt8) : Except Error Int :=
  match itemText raw with
  | .error e => .error e
  | .ok s =>
    match Text.Decimal.int32? (Text.trim s.toList) with
    | some n => .ok n
    | none => .error (.legacyNumber s)

/-- The parameters that set one field to an item's value. -/
def parametersOf (f : Field) (raw : List UInt8) : Except Error Parameters :=
  match f with
  | .text t => (itemText raw).map (fun s => t.set {} s)
  | .number n => (itemNumber raw).map (fun v => n.set {} v)

/-! ## Import -/

variable {σ τ μ : Type} (M : ControlPlane σ τ) (L : LegacySource μ)

/-- Imports one item. -/
def importItem (i : LegacyItem) (s : ControlPlane.State σ τ) (x : μ) :
    Except Error Unit × ControlPlane.State σ τ × μ :=
  match L.item i x with
  | (.error err, x) => (.error (.platform err), s, x)
  | (.ok raw, x) =>
    match parametersOf i.field raw with
    | .error err => (.error err, s, x)
    | .ok p =>
      let (result, s) := M.saveParameters (.single i.field) p s
      (result, s, x)

/-- Imports items one after the other and passes over those that fail. -/
def importItems : List LegacyItem → ControlPlane.State σ τ → μ → ControlPlane.State σ τ × μ
  | [], s, x => (s, x)
  | i :: rest, s, x =>
    let (_, s, x) := importItem M L i s x
    importItems rest s x

/-- Imports the interface kind and then what else there is for it. -/
def importAll (s : ControlPlane.State σ τ) (x : μ) :
    Except Error Unit × ControlPlane.State σ τ × μ :=
  match L.item .netifKind x with
  | (.error err, x) => (.error (.platform err), s, x)
  | (.ok raw, x) =>
    match itemNumber raw with
    | .error err => (.error err, s, x)
    | .ok n =>
      match InterfaceKind.ofRaw? n with
      | none => (.error (.legacyInterfaceKind n), s, x)
      | some kind =>
        match M.saveParameters (.single (.number .netifKind)) { normal.netifKind := n } s with
        | (.error err, s) => (.error err, s, x)
        | (.ok _, s) =>
          let wanted := LegacyItem.optional.filter (fun i => !i.wifiOnly || kind = .wifi)
          let (s, x) := importItems M L wanted s x
          (.ok (), s, x)

/-- Imports older settings if there are any. The source is disconnected once it was connected,
    whatever came of the import. -/
def run (s : ControlPlane.State σ τ) (x : μ) :
    Except Error Unit × ControlPlane.State σ τ × μ :=
  if L.needsImport .ethernet x || L.needsImport .wifi x then
    match L.connect x with
    | (.error err, x) => (.error (.platform err), s, x)
    | (.ok _, x) =>
      let (result, s, x) := importAll M L s x
      (result, s, (L.disconnect x).2)
  else (.ok (), s, x)

end Legacy

end Connectivity
