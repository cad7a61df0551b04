/-
  Connectivity.Toml.Lexeme — the words of a TOML document: blanks, comments and line ends, keys,
  strings, numbers and date-times. Each reader takes the characters that are left and gives what
  it read with the characters after it, or nothing where its word does not stand.
-/

import Connectivity.Text.Decimal

namespace Connectivity.Toml

/-- A reader of one word or phrase. -/
abbrev Reader (α : Type) := List Char → Option (α × List Char)

/-! ## Characters -/

def isSpace (c : Char) : Bool := c == ' ' || c == '\t'

/-- A character that may stand in a comment: no control character except the tab. -/
def isPlain (c : Char) : Bool :=
  c == '\t' || (0x20 ≤ c.toNat && c.toNat ≤ 0x7E) || 0x80 ≤ c.toNat

def isBare (c : Char) : Bool := c.isAlphanum || c == '_' || c == '-'

def isHexDigit (c : Char) : Bool :=
  c.isDigit || ('a' ≤ c && c ≤ 'f') || ('A' ≤ c && c ≤ 'F')

def hexDigit (c : Char) : Nat :=
  if c.isDigit then c.toNat - '0'.toNat
  else if 'a' ≤ c then c.toNat - 'a'.toNat + 10
  else c.toNat - 'A'.toNat + 10

/-! ## Blanks and line ends -/

def skipSpace (cs : List Char) : List Char := cs.dropWhile isSpace

/-- A line feed, with or without a carriage return before it. -/
def newline? : List Char → Option (List Char)
  | '\n' :: rest => some rest
  | '\r' :: '\n' :: rest => some rest
  | _ => none

/-- A line end, which the end of the document is too. -/
def lineEnd? : List Char → Option (List Char)
  | [] => some []
  | cs => newline? cs

def skipComment : List Char → List Char
  | '#' :: rest => rest.dropWhile isPlain
  | cs => cs

/-- Spaces and a comment up to the end of the line. -/
def lineRest? (cs : List Char) : Option (List Char) := lineEnd? (skipComment (skipSpace cs))

/-- Spaces, line ends and whole comment lines, as they may stand between the items of an
    array. -/
def skipBlank : Nat → List Char → List Char
  | 0, cs => cs
  | fuel + 1, cs =>
    match newline? (skipComment (skipSpace cs)) with
    | some rest => skipBlank fuel rest
    | none => skipSpace cs

/-! ## Strings -/

/-- A number of hex digits, read as a character. -/
def codePoint (count : Nat) : Reader Char := fun cs =>
  let digits := cs.take count
  if digits.length = count ∧ digits.all isHexDigit then
    let n := digits.foldl (fun n c => 16 * n + hexDigit c) 0
    if n.isValidChar then some (Char.ofNat n, cs.drop count) else none
  else none

/-- What follows a backslash. -/
def escape : Reader Char
  | 'b' :: rest => some ('\x08', rest)
  | 't' :: rest => some ('\t', rest)
  | 'n' :: rest => some ('\n', rest)
  | 'f' :: rest => some ('\x0c', rest)
  | 'r' :: rest => some ('\r', rest)
  | '"' :: rest => some ('"', rest)
  | '\\' :: rest => some ('\\', rest)
  | 'u' :: rest => codePoint 4 rest
  | 'U' :: rest => codePoint 8 rest
  | _ => none

/-- The rest of a string between double quotes. -/
def basicRest : Nat → Reader (List Char)
  | 0, _ => none
  | fuel + 1, cs =>
    match cs with
    | '"' :: rest => some ([], rest)
    | '\\' :: rest => do
      let (c, rest) ← escape rest
      let (s, rest) ← basicRest fuel rest
      return (c :: s, rest)
    | c :: rest =>
      if isPlain c then (basicRest fuel rest).map (fun read => (c :: read.1, read.2)) else none
    | [] => none

/-- The rest of a string between single quotes, in which nothing is escaped. -/
def literalRest : Reader (List Char)
  | '\'' :: rest => some ([], rest)
  | c :: rest =>
    if isPlain c then (literalRest rest).map (fun read => (c :: read.1, read.2)) else none
  | [] => none

/-- The blanks and line ends that a backslash at the end of a line joins to it. -/
def lineJoin? (cs : List Char) : Option (List Char) :=
  (newline? (skipSpace cs)).map (List.dropWhile (fun c => isSpace c || c == '\n' || c == '\r'))

/-- Whether a carriage return stands without its line feed before the first other character. -/
def looseReturn : List Char → Bool
  | '\r' :: '\n' :: rest => looseReturn rest
  | '\r' :: _ => true
  | c :: rest => (isSpace c || c == '\n') && looseReturn rest
  | [] => false

/-- The rest of a string of several lines between triple double quotes. One or two quotes may
    stand before the closing ones. -/
def basicLines : Nat → Reader (List Char)
  | 0, _ => none
  | fuel + 1, cs =>
    match cs with
    | '"' :: '"' :: '"' :: '"' :: '"' :: rest => some (['"', '"'], rest)
    | '"' :: '"' :: '"' :: '"' :: rest => some (['"'], rest)
    | '"' :: '"' :: '"' :: rest => some ([], rest)
    | '\\' :: rest =>
      match lineJoin? rest with
      | some after => if looseReturn rest then none else basicLines fuel after
      | none => do
        let (c, rest) ← escape rest
        let (s, rest) ← basicLines fuel rest
        return (c :: s, rest)
    | c :: rest =>
      match newline? cs with
      | some rest => (basicLines fuel rest).map (fun read => ('\n' :: read.1, read.2))
      | none =>
        if isPlain c then (basicLines fuel rest).map (fun read => (c :: read.1, read.2)) else none
    | [] => none

/-- The rest of a string of several lines between triple single quotes. -/
def literalLines : Nat → Reader (List Char)
  | 0, _ => none
  | fuel + 1, cs =>
    match cs with
    | '\'' :: '\'' :: '\'' :: '\'' :: '\'' :: rest => some (['\'', '\''], rest)
    | '\'' :: '\'' :: '\'' :: '\'' :: rest => some (['\''], rest)
    | '\'' :: '\'' :: '\'' :: rest => some ([], rest)
    | c :: rest =>
      match newline? cs with
      | some rest => (literalLines fuel rest).map (fun read => ('\n' :: read.1, read.2))
      | none =>
        if isPlain c then (literalLines fuel rest).map (fun read => (c :: read.1, read.2))
        else none
    | [] => none

/-- A line end right after the opening quotes of a string of several lines is no part of it. -/
def afterOpening (cs : List Char) : List Char := (newline? cs).getD cs

/-- A string in one of its four forms. -/
def string : Reader String := fun cs =>
  let read : Option (List Char × List Char) :=
    match cs with
    | '"' :: '"' :: '"' :: rest => basicLines (rest.length + 1) (afterOpening rest)
    | '"' :: rest => basicRest (rest.length + 1) rest
    | '\'' :: '\'' :: '\'' :: rest => literalLines (rest.length + 1) (afterOpening rest)
    | '\'' :: rest => literalRest rest
    | _ => none
  read.map (fun read => (String.ofList read.1, read.2))

/-! ## Keys -/

/-- One part of a key: bare characters, or a string of one line. -/
def keyPart : Reader String
  | '"' :: rest => (basicRest (rest.length + 1) rest).map (fun r => (String.ofList r.1, r.2))
  | '\'' :: rest => (literalRest rest).map (fun r => (String.ofList r.1, r.2))
  | cs =>
    let bare := cs.takeWhile isBare
    if bare.isEmpty then none else some (String.ofList bare, cs.dropWhile isBare)

/-- The parts of a key between dots; spaces may stand around each. -/
def keyParts : Nat → Reader (List String)
  | 0, _ => none
  | fuel + 1, cs => do
    let (part, rest) ← keyPart (skipSpace cs)
    match skipSpace rest with
    | '.' :: rest =>
      let (parts, rest) ← keyParts fuel rest
      return (part :: parts, rest)
    | rest => return ([part], rest)

/-- How deep values and keys may nest; the bound itself is refused. -/
def depthLimit : Nat := 80

def key : Reader (List String) := fun cs =>
  (keyParts (cs.length + 1) cs).filter (fun read => read.1.length < depthLimit)

/-! ## Numbers -/

/-- Digits of a kind, with single underscores between them; the underscores are dropped. -/
def digits (isDigit : Char → Bool) : Reader (List Char)
  | c :: rest =>
    if isDigit c then
      match rest with
      | '_' :: d :: more =>
        if isDigit d then (digits isDigit (d :: more)).map (fun read => (c :: read.1, read.2))
        else some ([c], rest)
      | d :: more =>
        if isDigit d then (digits isDigit (d :: more)).map (fun read => (c :: read.1, read.2))
        else some ([c], rest)
      | [] => some ([c], [])
    else none
  | [] => none

/-- An optional sign; whether the number is negative. -/
def sign : List Char → Bool × List Char
  | '-' :: rest => (true, rest)
  | '+' :: rest => (false, rest)
  | cs => (false, cs)

/-- A decimal number without a leading zero. -/
def decimal : Reader (List Char)
  | '0' :: rest => some (['0'], rest)
  | cs => digits Char.isDigit cs

def int64Min : Int := -9223372036854775808

def int64Max : Int := 9223372036854775807

/-- An integer that has to fit 64 bits. -/
def bounded (n : Int) (rest : List Char) : Option (Int × List Char) :=
  if int64Min ≤ n ∧ n ≤ int64Max then some (n, rest) else none

/-- Digits to a base, most significant first. -/
def valueIn (base : Nat) (cs : List Char) : Nat := cs.foldl (fun n c => base * n + hexDigit c) 0

def based (base : Nat) (isDigit : Char → Bool) : Reader Int := fun cs => do
  let (ds, rest) ← digits isDigit cs
  bounded (valueIn base ds) rest

def integer : Reader Int
  | '0' :: 'x' :: rest => based 16 isHexDigit rest
  | '0' :: 'o' :: rest => based 8 (fun c => '0' ≤ c && c ≤ '7') rest
  | '0' :: 'b' :: rest => based 2 (fun c => c == '0' || c == '1') rest
  | cs => do
    let (negative, rest) := sign cs
    let (ds, rest) ← decimal rest
    let n : Int := Text.Decimal.value ds
    bounded (if negative then -n else n) rest

/-- The exponent of a float: its value, zero where there is none. -/
def exponent (cs : List Char) : Option (Option Int × List Char) :=
  match cs with
  | e :: rest =>
    if e == 'e' || e == 'E' then do
      let (negative, rest) := sign rest
      let (ds, rest) ← digits Char.isDigit rest
      let n : Int := Text.Decimal.value ds
      return (some (if negative then -n else n), rest)
    else some (none, cs)
  | [] => some (none, [])

/-- Whether `mantissa * 10 ^ exp` rounds to a binary64 infinity: whether it is at least half a
    unit of the last place above the largest finite value. -/
def overflows (mantissa : Nat) (exp : Int) : Bool :=
  let bound := Nat.pow 2 1024 - Nat.pow 2 970
  if mantissa = 0 then false
  else if 0 ≤ exp then decide (400 < exp) || decide (bound ≤ mantissa * Nat.pow 10 exp.toNat)
  else
    let places := (-exp).toNat
    decide (places < 400 + (Nat.toDigits 10 mantissa).length) &&
      decide (bound * Nat.pow 10 places ≤ mantissa)

/-- A number with a fraction or an exponent, or a special value. A number too large for
    binary64 is refused; a negative one stands for minus infinity. -/
def float : Reader Unit := fun cs =>
  let (negative, rest) := sign cs
  match rest with
  | 'i' :: 'n' :: 'f' :: rest => some ((), rest)
  | 'n' :: 'a' :: 'n' :: rest => some ((), rest)
  | _ => do
    let (whole, rest) ← decimal rest
    let (fraction, rest) ←
      match rest with
      | '.' :: rest => (digits Char.isDigit rest).map (fun r => (some r.1, r.2))
      | _ => some (none, rest)
    let (exp, rest) ← exponent rest
    if fraction.isNone ∧ exp.isNone then none
    else
      let places := fraction.getD []
      let mantissa := Text.Decimal.value (whole ++ places)
      if !negative && overflows mantissa (exp.getD 0 - places.length) then none
      else some ((), rest)

/-! ## Date-times -/

/-- Exactly `count` digits, read as a number. -/
def number (count : Nat) : Reader Nat := fun cs =>
  let ds := cs.take count
  if ds.length = count ∧ ds.all Char.isDigit then some (Text.Decimal.value ds, cs.drop count)
  else none

def numberIn (count low high : Nat) : Reader Nat := fun cs =>
  (number count cs).filter (fun read => low ≤ read.1 && read.1 ≤ high)

def character (c : Char) : List Char → Option (List Char)
  | d :: rest => if c = d then some rest else none
  | [] => none

def isLeapYear (year : Nat) : Bool :=
  year % 4 == 0 && (year % 100 != 0 || year % 400 == 0)

def daysIn (year month : Nat) : Nat :=
  if month = 2 then (if isLeapYear year then 29 else 28)
  else if month = 4 ∨ month = 6 ∨ month = 9 ∨ month = 11 then 30
  else 31

def date : Reader Unit := fun cs => do
  let (year, rest) ← number 4 cs
  let rest ← character '-' rest
  let (month, rest) ← numberIn 2 1 12 rest
  let rest ← character '-' rest
  let (_, rest) ← numberIn 2 1 (daysIn year month) rest
  return ((), rest)

/-- The fraction of a second, where there is one. -/
def skipFraction (cs : List Char) : List Char :=
  match cs with
  | '.' :: d :: rest => if d.isDigit then rest.dropWhile Char.isDigit else cs
  | _ => cs

def time : Reader Unit := fun cs => do
  let (_, rest) ← numberIn 2 0 23 cs
  let rest ← character ':' rest
  let (_, rest) ← numberIn 2 0 59 rest
  let rest ← character ':' rest
  let (_, rest) ← numberIn 2 0 60 rest
  return ((), skipFraction rest)

/-- The distance from universal time, where it is given: `Z`, or a sign, hours and minutes. -/
def offset (cs : List Char) : Option (List Char) :=
  match cs with
  | c :: rest =>
    if c == 'Z' || c == 'z' then some rest
    else if c == '+' || c == '-' then do
      let (_, rest) ← numberIn 2 0 23 rest
      let rest ← character ':' rest
      let (_, rest) ← numberIn 2 0 59 rest
      return rest
    else some cs
  | [] => some []

/-- A date with or without a time, or a time alone. -/
def dateTime : Reader Unit := fun cs =>
  match date cs with
  | some (_, rest) =>
    match rest with
    | c :: after =>
      if c == 'T' || c == 't' || c == ' ' then
        match time after with
        | some (_, after) => (offset after).map (fun rest => ((), rest))
        | none => some ((), rest)
      else some ((), rest)
    | [] => some ((), [])
  | none => time cs

end Connectivity.Toml
