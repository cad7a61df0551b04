/-
  Connectivity.Parameter.Stored — parameters in a store, one key for each field. Saving and
  loading touch only the fields that a mask selects, in the order of the fields, and end at the
  first operation that fails: what came before it stays done.
-/

import Connectivity.Error

namespace Connectivity

variable {τ : Type}

/-! ## One field -/

def Field.read (p : Parameters) : Field → StoredValue
  | .text f => .text (f.get p)
  | .number f => .number (f.get p)

/-- The parameters with a field set to a stored value, if the value has the field's type. -/
def Field.write? (p : Parameters) : Field → StoredValue → Option Parameters
  | .text f, .text s => some (f.set p s)
  | .number f, .number n => some (f.set p n)
  | _, _ => none

/-- What an absent key stands for. -/
def Field.unset : Field → StoredValue
  | .text _ => .text ""
  | .number _ => .number 0

/-- The stored form of a field; a text that fills its buffer is refused. -/
def Field.encode (p : Parameters) (f : Field) : Except Error (String × StoredValue) :=
  match f with
  | .text t =>
    if (t.get p).utf8ByteSize < t.capacity then .ok (f.key, f.read p) else .error (.tooLong t)
  | .number _ => .ok (f.key, f.read p)

/-! ## Selected fields -/

def encodeAll (p : Parameters) : List Field → Except Error (List (String × StoredValue))
  | [] => .ok []
  | f :: fs =>
    match f.encode p with
    | .error e => .error e
    | .ok row =>
      match encodeAll p fs with
      | .error e => .error e
      | .ok rows => .ok (row :: rows)

/-- The stored forms of the selected fields. -/
def encode (m : Mask) (p : Parameters) : Except Error (List (String × StoredValue)) :=
  encodeAll p m.fields

/-- Writes rows up to the first that fails. -/
def writeRows (S : Store τ) : List (String × StoredValue) → τ → Except Error Unit × τ
  | [], t => (.ok (), t)
  | (key, v) :: rows, t =>
    match S.save key v t with
    | (.error e, t) => (.error (.storage e), t)
    | (.ok _, t) => writeRows S rows t

/-- Writes the selected fields. -/
def saveFields (S : Store τ) (m : Mask) (p : Parameters) (t : τ) : Except Error Unit × τ :=
  match encode m p with
  | .error e => (.error e, t)
  | .ok rows => writeRows S rows t

/-- The parameters as far as they were read, with the number of keys found or the error that
    ended the reading. -/
structure Loaded where
  result : Except Error Nat
  parameters : Parameters

/-- Reads fields up to the first that fails or has a value of the wrong type. -/
def loadAll (S : Store τ) : List Field → Nat → Parameters → τ → Loaded × τ
  | [], found, p, t => (⟨.ok found, p⟩, t)
  | f :: fs, found, p, t =>
    match S.load f.key t with
    | (.error e, t) => (⟨.error (.storage e), p⟩, t)
    | (.ok stored, t) =>
      match f.write? p (stored.getD f.unset) with
      | none => (⟨.error (.storage (.corrupt f.key "unexpected value type")), p⟩, t)
      | some p => loadAll S fs (if stored.isSome then found + 1 else found) p t

/-- Reads the selected fields into a record; an absent key resets its field. -/
def loadFields (S : Store τ) (m : Mask) (p : Parameters) (t : τ) : Loaded × τ :=
  loadAll S m.fields 0 p t

/-- Whether a value is stored for the field of a mask of one bit; no other mask names a field. -/
def holds (S : Store τ) (m : Mask) (t : τ) : Except Error Bool × τ :=
  match Field.all.find? (fun f => Mask.single f = m) with
  | none => (.ok false, t)
  | some f =>
    match S.load f.key t with
    | (.error e, t) => (.error (.storage e), t)
    | (.ok stored, t) => (.ok stored.isSome, t)

end Connectivity
