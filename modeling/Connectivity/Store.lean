/-
  Connectivity.Store — where parameters are kept: a store of single values by key. A store is a
  record of operations over a state of its own, either of which may fail. The volatile store
  keeps its values in a table and can be made read-only.
-/

import Connectivity.Table

namespace Connectivity

/-- A stored value. -/
inductive StoredValue where
  | text (s : String)
  | number (n : Int)
  deriving DecidableEq, Repr

inductive StoreError where
  | backend (message : String)
  | corrupt (key message : String)
  deriving DecidableEq, Repr

def StoreError.message : StoreError → String
  | .backend message => s!"storage backend failure: {message}"
  | .corrupt key message => s!"stored value for {key} is corrupt: {message}"

structure Store (τ : Type) where
  /-- The value under a key, none if the key is absent. -/
  load : String → τ → Except StoreError (Option StoredValue) × τ
  save : String → StoredValue → τ → Except StoreError Unit × τ

/-- A store that keeps nothing when the device is off. -/
structure VolatileStore where
  entries : Table String StoredValue := .empty
  readOnly : Bool := false
  deriving DecidableEq, Repr

namespace VolatileStore

def load (key : String) (s : VolatileStore) :
    Except StoreError (Option StoredValue) × VolatileStore :=
  (.ok (s.entries.find? key), s)

def save (key : String) (v : StoredValue) (s : VolatileStore) :
    Except StoreError Unit × VolatileStore :=
  if s.readOnly then (.error (.backend "store is read-only"), s)
  else (.ok (), { s with entries := s.entries.insert key v })

def operations : Store VolatileStore := { load, save }

end VolatileStore

end Connectivity
