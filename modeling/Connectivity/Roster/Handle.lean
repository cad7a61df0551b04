/-
  Connectivity.Roster.Handle — a handle is one word of 32 bits: the index of a slot below and
  the slot's generation above, sixteen bits each.
-/

namespace Connectivity

structure Handle where
  raw : UInt32
  deriving DecidableEq, Repr

namespace Handle

def make (index : Nat) (generation : UInt16) : Handle :=
  ⟨UInt32.ofNat (generation.toNat * 65536 + index % 65536)⟩

def index (h : Handle) : Nat := h.raw.toNat % 65536

def generation (h : Handle) : UInt16 := UInt16.ofNat (h.raw.toNat / 65536)

def text (h : Handle) : String := toString h.raw.toNat

theorem index_make (index : Nat) (generation : UInt16) :
    (make index generation).index = index % 65536 := by
  have := generation.toNat_lt
  simp only [make, Handle.index, UInt32.toNat_ofNat']
  omega

theorem generation_make (index : Nat) (generation : UInt16) :
    (make index generation).generation = generation := by
  have := generation.toNat_lt
  apply UInt16.toNat_inj.1
  simp only [make, Handle.generation, UInt32.toNat_ofNat', UInt16.toNat_ofNat']
  omega

theorem make_index_generation (h : Handle) : make h.index h.generation = h := by
  have := h.raw.toNat_lt
  obtain ⟨raw⟩ := h
  simp only [make, Handle.index, Handle.generation, mk.injEq, UInt16.toNat_ofNat'] at *
  apply UInt32.toNat_inj.1
  simp only [UInt32.toNat_ofNat']
  omega

end Handle

end Connectivity
