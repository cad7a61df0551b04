/-
  Connectivity.Text.Quoted — a text between double quotes. The quote and the backslash take a
  backslash; tab, line feed, carriage return and NUL have letters of their own; every other
  hidden character is written by its number, and all else stands as it is. A single quote is not
  escaped.
-/

import Connectivity.Text.Hidden

namespace Connectivity.Text

/-- The digits of a number to base sixteen, lower case, without padding. -/
def hex (n : Nat) : List Char := Nat.toDigits 16 n

/-- The written form of one character inside quotes. -/
def quoteChar (c : Char) : List Char :=
  if c = '"' then ['\\', '"']
  else if c = '\\' then ['\\', '\\']
  else if c = '\t' then ['\\', 't']
  else if c = '\r' then ['\\', 'r']
  else if c = '\n' then ['\\', 'n']
  else if c = Char.ofNat 0 then ['\\', '0']
  else if isHidden c then '\\' :: 'u' :: '\x7b' :: hex c.toNat ++ ['\x7d']
  else [c]

def quote (s : String) : String := String.ofList ('"' :: s.toList.flatMap quoteChar ++ ['"'])

end Connectivity.Text
