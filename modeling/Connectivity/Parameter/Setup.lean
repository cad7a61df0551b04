/-
  Connectivity.Parameter.Setup — what parameters set up: a mode's interface before it is started,
  and a static address.
-/

import Connectivity.Error

namespace Connectivity

open Net (Ipv4)

def securityOf (raw : Int) : Except Error Security :=
  match Security.ofRaw? raw with
  | some s => .ok s
  | none => .error (.badEncryption raw)

/-- The setup of a mode's interface of a kind. An access point is Wi-Fi whatever the
    kind says. -/
def interfaceSetup (mode : Mode) (kind : InterfaceKind) (p : Parameters) :
    Except Error InterfaceSetup :=
  match mode, kind with
  | .normal, .ethernet => .ok .ethernet
  | .normal, .wifi =>
    let s := p.normal.station
    (securityOf s.encryption).map (.station s.ssid s.password ·)
  | .accessPoint, _ =>
    let a := p.accessPoint.ap
    if 0 ≤ a.channel ∧ a.channel ≤ 255 then
      (securityOf a.encryption).map (.accessPoint a.ssid a.password · a.channel.toNat.toUInt8)
    else .error (.badChannel a.channel)

def requiredAddress (part : AddressPart) (s : String) : Except Error Ipv4 :=
  match Ipv4.ofString? s with
  | some x => .ok x
  | none => .error (.badAddress part s)

def optionalAddress (part : AddressPart) (s : String) : Except Error Ipv4 :=
  if s.isEmpty then .ok .unspecified else requiredAddress part s

/-- A static address. Address and netmask are required; the first part that is no address is the
    one that the error names. -/
def staticAddressing (s : AddressTexts) : Except Error Addressing := do
  let address ← requiredAddress .address s.address
  let netmask ← requiredAddress .netmask s.netmask
  let gateway ← optionalAddress .gateway s.gateway
  let dns ← optionalAddress .dns s.dns
  return { address, netmask, gateway, dns }

end Connectivity
