/-
  Connectivity.Text.Decimal — decimal digits: the value of a run of digits, natural numbers, and
  integers of 32 bits with an optional sign. A number has at least one digit, and only the ASCII
  digits count.
-/

namespace Connectivity.Text.Decimal

/-- The value of one digit character. -/
def digit (c : Char) : Nat := c.toNat - '0'.toNat

/-- The value of a run of digits, most significant first. -/
def value (cs : List Char) : Nat := cs.foldl (fun n c => 10 * n + digit c) 0

/-- One or more digits and nothing else. -/
def isNumber (cs : List Char) : Bool := !cs.isEmpty && cs.all Char.isDigit

def nat? (cs : List Char) : Option Nat := if isNumber cs then some (value cs) else none

def int32Min : Int := -2147483648

def int32Max : Int := 2147483647

def inInt32 (n : Int) : Bool := decide (int32Min ≤ n ∧ n ≤ int32Max)

/-- An optional sign and one or more digits, read as an integer of any size. -/
def int? : List Char → Option Int
  | '-' :: cs => (nat? cs).map (fun n => -(n : Int))
  | '+' :: cs => (nat? cs).map (fun n => (n : Int))
  | cs => (nat? cs).map (fun n => (n : Int))

/-- An optional sign and one or more digits whose value fits 32 bits. -/
def int32? (cs : List Char) : Option Int := (int? cs).filter inInt32

end Connectivity.Text.Decimal
