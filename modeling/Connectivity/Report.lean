/-
  Connectivity.Report — what is known about a connection, and the policy it runs under, as JSON
  for diagnostics. Fields stand in a fixed order. The text of a report is indented two
  spaces for each record that a line stands in, and shows no password.
-/

import Connectivity.ControlPlane.Connection

namespace Connectivity

namespace Report

inductive Json where
  | null
  | boolean (b : Bool)
  | number (n : Int)
  | text (s : String)
  | record (rows : List (String × Json))

/-! ## Writing -/

/-- The written form of a character inside a JSON string: only the quote, the backslash and the
    control characters below the space are escaped. -/
def jsonChar (c : Char) : List Char :=
  if c = '"' then ['\\', '"']
  else if c = '\\' then ['\\', '\\']
  else if c = '\x08' then ['\\', 'b']
  else if c = '\t' then ['\\', 't']
  else if c = '\n' then ['\\', 'n']
  else if c = '\x0c' then ['\\', 'f']
  else if c = '\r' then ['\\', 'r']
  else if c.toNat < 0x20 then
    '\\' :: 'u' :: '0' :: '0' :: Nat.digitChar (c.toNat / 16) :: [Nat.digitChar (c.toNat % 16)]
  else [c]

def jsonText (s : String) : String :=
  String.ofList ('"' :: s.toList.flatMap jsonChar ++ ['"'])

def indent (depth : Nat) : String := String.ofList (List.replicate (2 * depth) ' ')

mutual

/-- A value whose first line stands where it is put and whose other lines are indented for the
    given depth. -/
def Json.pretty (depth : Nat) : Json → String
  | .null => "null"
  | .boolean b => if b then "true" else "false"
  | .number n => toString n
  | .text s => jsonText s
  | .record rows =>
    "\x7b\n" ++ prettyRows (depth + 1) rows ++ "\n" ++ indent depth ++ "\x7d"

/-- The rows of a record, one below the other. -/
def prettyRows (depth : Nat) : List (String × Json) → String
  | [] => ""
  | [(key, v)] => indent depth ++ jsonText key ++ ": " ++ v.pretty depth
  | (key, v) :: rows =>
    indent depth ++ jsonText key ++ ": " ++ v.pretty depth ++ ",\n" ++ prettyRows depth rows

end

/-! ## Records -/

def ofAddressTexts (s : AddressTexts) : Json :=
  .record
    [("ip_address", .text s.address), ("subnet_mask", .text s.netmask),
      ("gateway", .text s.gateway), ("dns", .text s.dns)]

def ofParameters (p : Parameters) : Json :=
  let station := p.normal.station
  let ap := p.accessPoint.ap
  .record
    [ ("normal", .record
        [ ("dev_ip", ofAddressTexts p.normal.ip),
          ("dev_ip_v6", ofAddressTexts p.normal.ipv6),
          ("ip_method", .number p.normal.ipMethod),
          ("netif_kind", .number p.normal.netifKind),
          ("wifi_sta", .record
            [("ssid", .text station.ssid), ("password", .text station.password),
              ("encryption", .number station.encryption)]) ]),
      ("access_point", .record
        [ ("dev_ip", ofAddressTexts p.accessPoint.ip),
          ("wifi_ap", .record
            [("ssid", .text ap.ssid), ("password", .text ap.password),
              ("encryption", .number ap.encryption), ("channel", .number ap.channel)]) ]),
      ("proxy", .record
        [ ("url", .text p.proxy.url), ("port", .number p.proxy.tcpPort),
          ("username", .text p.proxy.username), ("password", .text p.proxy.password) ]) ]

def ofAddressing (c : Addressing) : Json :=
  .record
    [("address", .text c.address.text), ("netmask", .text c.netmask.text),
      ("gateway", .text c.gateway.text), ("dns", .text c.dns.text)]

def ofCarrier (c : Carrier) : Json :=
  .record [("name", .text c.name), ("kind", .text c.kind.label)]

def ofTimers (t : Timers) : Json :=
  .record
    [("lease", .number t.lease.toNat), ("renewal", .number t.renewal.toNat),
      ("rebinding", .number t.rebinding.toNat)]

def ofSnapshot (x : Snapshot) : Json :=
  .record
    [ ("mode", .text x.mode.label),
      ("connect_status", .text x.status.label),
      ("notify", .text x.told.label),
      ("interface", (x.carrier.map ofCarrier).getD .null),
      ("parameter", ofParameters x.parameters),
      ("ip", ofAddressing x.address),
      ("ap_client_count", .number x.clients),
      ("lease", (x.lease.map ofTimers).getD .null) ]

def ofQuota (q : Quota) : Json :=
  .record
    [ ("normal_control", .number q.normalControl.toNat),
      ("normal_information", .number q.normalInformation.toNat),
      ("access_point_control", .number q.apControl.toNat),
      ("access_point_information", .number q.apInformation.toNat) ]

def ofLogging (l : LogSettings) : Json :=
  .record [("level", .text l.level), ("json", .boolean l.json), ("ansi", .boolean l.ansi)]

def ofPolicy (p : Policy) : Json :=
  .record
    [ ("resource_lock_timeout_ms", .number p.resourceLockTimeout.toNat),
      ("handle_lock_timeout_ms", .number p.handleLockTimeout.toNat),
      ("stop_pre_timeout_ms", .number p.stopPreTimeout.toNat),
      ("dhcp_retry_interval_secs", .number p.retryInterval.toNat),
      ("notify_queue_depth", .number p.notifyQueueDepth.toNat),
      ("handle_limits", ofQuota p.quota),
      ("logging", ofLogging p.logging) ]

end Report

/-- The diagnostics text of a connection, without its passwords. -/
def Snapshot.report (x : Snapshot) : String :=
  (Report.ofSnapshot { x with parameters := x.parameters.redacted }).pretty 0

end Connectivity
