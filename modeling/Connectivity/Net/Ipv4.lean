/-
  Connectivity.Net.Ipv4 — IPv4 addresses and their dotted text: four decimal octets, each of one
  to three digits without a leading zero and at most 255.
-/

import Connectivity.Text.Decimal
import Connectivity.Text.Fields

namespace Connectivity.Net

structure Ipv4 where
  a : UInt8
  b : UInt8
  c : UInt8
  d : UInt8
  deriving DecidableEq, Repr

namespace Ipv4

/-- The address `0.0.0.0`, which stands for no address. -/
def unspecified : Ipv4 := ⟨0, 0, 0, 0⟩

instance : Inhabited Ipv4 := ⟨unspecified⟩

/-- The value of an octet's text. -/
def octet? (cs : List Char) : Option UInt8 :=
  if 3 < cs.length ∨ (cs.head? = some '0' ∧ 1 < cs.length) then none
  else (Text.Decimal.nat? cs).bind (fun n => if n < 256 then some n.toUInt8 else none)

def ofChars? (cs : List Char) : Option Ipv4 :=
  match (Text.fields '.' cs).map octet? with
  | [some a, some b, some c, some d] => some ⟨a, b, c, d⟩
  | _ => none

def ofString? (s : String) : Option Ipv4 := ofChars? s.toList

def octetText (b : UInt8) : List Char := Nat.toDigits 10 b.toNat

def toChars (x : Ipv4) : List Char :=
  Text.join '.' [octetText x.a, octetText x.b, octetText x.c, octetText x.d]

/-- The dotted text of an address. -/
def text (x : Ipv4) : String := String.ofList x.toChars

end Ipv4

end Connectivity.Net
