/-
  Connectivity.Net.Ipv6 — the text form of an IPv6 address: eight groups of one to four hex
  digits between colons, of which the last two may be written as a dotted IPv4 address; one
  double colon may stand for one or more groups of zeros. A zone is not part of an address.
-/

import Connectivity.Net.Ipv4

namespace Connectivity.Net.Ipv6

def isHexDigit (c : Char) : Bool :=
  c.isDigit || ('a' ≤ c && c ≤ 'f') || ('A' ≤ c && c ≤ 'F')

def isGroup (cs : List Char) : Bool :=
  !cs.isEmpty && decide (cs.length ≤ 4) && cs.all isHexDigit

/-- How many groups a run of fields stands for, a dotted address counting for two where
    `dotted` allows it at the end. -/
def groupCount (dotted : Bool) : List (List Char) → Option Nat
  | [] => some 0
  | [f] =>
    if isGroup f then some 1
    else if dotted && (Ipv4.ofChars? f).isSome then some 2
    else none
  | f :: fs => if isGroup f then (groupCount dotted fs).map (· + 1) else none

/-- The groups of a side of a double colon; the empty side has none. -/
def sideCount (dotted : Bool) (cs : List Char) : Option Nat :=
  if cs.isEmpty then some 0 else groupCount dotted (Text.fields ':' cs)

/-- The text before and after the first double colon. -/
def splitAtGap : List Char → Option (List Char × List Char)
  | ':' :: ':' :: rest => some ([], rest)
  | c :: rest => (splitAtGap rest).map (fun sides => (c :: sides.1, sides.2))
  | [] => none

def isAddress (cs : List Char) : Bool :=
  match splitAtGap cs with
  | none => groupCount true (Text.fields ':' cs) == some 8
  | some (head, tail) =>
    match sideCount false head, sideCount true tail with
    | some m, some n => decide (m + n ≤ 7)
    | _, _ => false

end Connectivity.Net.Ipv6
