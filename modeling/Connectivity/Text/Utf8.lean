/-
  Connectivity.Text.Utf8 — bytes read as UTF-8. A text is a run of well-formed sequences
  (shortest form, no surrogates, at most U+10FFFF). What cannot be read is reported by the index
  at which the offending sequence starts and, unless the bytes end inside a sequence that is
  good so far, by how many of its bytes were good.
-/

namespace Connectivity.Text.Utf8

/-- Where and how a byte string stops being UTF-8; no length means that the bytes end inside a
    sequence. -/
structure Malformed where
  index : Nat
  length : Option Nat
  deriving DecidableEq, Repr

def Malformed.message (e : Malformed) : String :=
  match e.length with
  | some n => s!"invalid utf-8 sequence of {n} bytes from index {e.index}"
  | none => s!"incomplete utf-8 byte sequence from index {e.index}"

def within (low high : Nat) (b : UInt8) : Bool := decide (low ≤ b.toNat ∧ b.toNat ≤ high)

/-- A byte that may only continue a sequence. -/
def isTail (b : UInt8) : Bool := within 0x80 0xBF b

/-- The second bytes allowed after the first byte of a sequence of three or four bytes: the
    bounds exclude long forms, surrogates and values past U+10FFFF. -/
def isSecond (first second : UInt8) : Bool :=
  if first = 0xE0 then within 0xA0 0xBF second
  else if first = 0xED then within 0x80 0x9F second
  else if first = 0xF0 then within 0x90 0xBF second
  else if first = 0xF4 then within 0x80 0x8F second
  else isTail second

/-- The number of bytes in a sequence that starts with the given byte; none starts with a
    byte of length zero. -/
def width (first : UInt8) : Nat :=
  if within 0 0x7F first then 1
  else if within 0xC2 0xDF first then 2
  else if within 0xE0 0xEF first then 3
  else if within 0xF0 0xF4 first then 4
  else 0

def payload (b : UInt8) : Nat := b.toNat % 64

def char2 (a b : UInt8) : Char := Char.ofNat (a.toNat % 32 * 64 + payload b)

def char3 (a b c : UInt8) : Char := Char.ofNat ((a.toNat % 16 * 64 + payload b) * 64 + payload c)

def char4 (a b c d : UInt8) : Char :=
  Char.ofNat (((a.toNat % 8 * 64 + payload b) * 64 + payload c) * 64 + payload d)

/-- The characters of the bytes, of which the first stands at index `i`. -/
def decodeFrom (i : Nat) : List UInt8 → Except Malformed (List Char)
  | [] => .ok []
  | a :: rest =>
    match width a with
    | 1 => (decodeFrom (i + 1) rest).map (Char.ofNat a.toNat :: ·)
    | 2 =>
      match rest with
      | [] => .error ⟨i, none⟩
      | b :: rest =>
        if isTail b then (decodeFrom (i + 2) rest).map (char2 a b :: ·) else .error ⟨i, some 1⟩
    | 3 =>
      match rest with
      | [] => .error ⟨i, none⟩
      | b :: rest =>
        if isSecond a b then
          match rest with
          | [] => .error ⟨i, none⟩
          | c :: rest =>
            if isTail c then (decodeFrom (i + 3) rest).map (char3 a b c :: ·)
            else .error ⟨i, some 2⟩
        else .error ⟨i, some 1⟩
    | 4 =>
      match rest with
      | [] => .error ⟨i, none⟩
      | b :: rest =>
        if isSecond a b then
          match rest with
          | [] => .error ⟨i, none⟩
          | c :: rest =>
            if isTail c then
              match rest with
              | [] => .error ⟨i, none⟩
              | d :: rest =>
                if isTail d then (decodeFrom (i + 4) rest).map (char4 a b c d :: ·)
                else .error ⟨i, some 3⟩
            else .error ⟨i, some 2⟩
        else .error ⟨i, some 1⟩
    | _ => .error ⟨i, some 1⟩

def decode (bytes : List UInt8) : Except Malformed (List Char) := decodeFrom 0 bytes

end Connectivity.Text.Utf8
