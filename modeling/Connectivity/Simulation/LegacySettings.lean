/-
  Connectivity.Simulation.LegacySettings — older settings held in memory, of which single items
  can be missing or broken.
-/

import Connectivity.Legacy

namespace Connectivity.Simulation

structure LegacySettings where
  /-- The kinds of interface whose settings are still to be imported. -/
  needs : List InterfaceKind := []
  /-- The items that answer the given bytes whatever else holds of them. -/
  bytes : Table LegacyItem (List UInt8) := .empty
  /-- The items with their text, which is read with a zero byte after it. -/
  texts : Table LegacyItem String := .empty
  broken : List LegacyItem := []
  connectError : Option PlatformError := none
  disconnectError : Option PlatformError := none
  connects : Nat := 0
  disconnects : Nat := 0
  deriving DecidableEq, Repr

namespace LegacySettings

def answer : Option PlatformError → Except PlatformError Unit
  | some e => .error e
  | none => .ok ()

/-- What reading an item gives. -/
def read (x : LegacySettings) (i : LegacyItem) : Except PlatformError (List UInt8) :=
  match x.bytes.find? i with
  | some raw => .ok raw
  | none =>
    if i ∈ x.broken then .error (.legacy i.text "read failed")
    else
      match x.texts.find? i with
      | some s => .ok (s.toUTF8.toList ++ [0])
      | none => .error (.legacy i.text "not present")

def source : LegacySource LegacySettings where
  needsImport kind x := x.needs.contains kind
  connect x := (answer x.connectError, { x with connects := x.connects + 1 })
  disconnect x := (answer x.disconnectError, { x with disconnects := x.disconnects + 1 })
  item i x := (x.read i, x)

end LegacySettings

end Connectivity.Simulation
