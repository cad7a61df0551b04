/-
  Connectivity.Proofs.Validity — what is accepted for keeping, field by field.
  - `validate_ok_iff`: a record is accepted if every selected field is.
  - `accepts_save`: where a record is only kept, the rule of a field looks at that field and at no other. So a
    value is good for a field whatever is in the rest of the record (`Field.admits`), and what an absent key
    stands for is good for every field (`admits_unset`).
  - `encode_of_validate`: a text that is accepted leaves room for its terminator, so a record that is
    accepted can be stored.
-/

import Connectivity.Parameter.Rules
import Connectivity.Proofs.Stores

namespace Connectivity

theorem validate_ok_iff {m : Mask} {p : Parameters} {purpose : Purpose} :
    validate m p purpose = .ok () ↔ ∀ f : Field, m.has f = true → f.accepts purpose p = true := by
  unfold validate
  split
  · rename_i f hfind
    have hrejected : ¬ f.accepts purpose p = true := by simpa using List.find?_some hfind
    have hf : m.has f = true := (m.mem_fields f).mp (List.mem_of_find?_eq_some hfind)
    exact ⟨nofun, fun h => absurd (h f hf) hrejected⟩
  · rename_i hnone
    refine ⟨fun _ f hf => ?_, fun _ => rfl⟩
    simpa using List.find?_eq_none.mp hnone f ((m.mem_fields f).mpr hf)

/-- A rejection names a field. -/
theorem validate_error {m : Mask} {p : Parameters} {purpose : Purpose} {e : Error}
    (h : validate m p purpose = .error e) : ∃ f, e = .rejected f purpose := by
  unfold validate at h
  split at h
  · rename_i f _
    exact ⟨f, (Except.error.inj h).symm⟩
  · cases h

/-! ## One field -/

namespace Field

variable {f : Field} {p q : Parameters} {v : StoredValue}

/-- The addresses of a static connection are required of it only when it starts. -/
theorem accepts_save (h : f.read p = f.read q) : f.accepts .save p = f.accepts .save q := by
  cases f with
  | text f =>
    have hget : f.get p = f.get q := f.get_of_read h
    cases f <;> simp only [TextField.get] at hget <;> simp [accepts, hget]
  | number f =>
    have hget : f.get p = f.get q := f.get_of_read h
    cases f <;> simp only [NumberField.get] at hget <;> simp [accepts, hget]

/-- The value is one that may be kept for the field. -/
def admits (f : Field) (v : StoredValue) : Bool := (f.write? {} v).any (f.accepts .save)

theorem admits_of_write (h : f.write? q v = some p) : f.admits v = f.accepts .save p := by
  have hv : f.ofType v = true := by
    rw [← f.write?_isSome q, h]
    rfl
  obtain ⟨p', hp'⟩ := Option.isSome_iff_exists.mp ((f.write?_isSome {} v).trans hv)
  have hread : f.read p' = f.read p := by simp [read_write? hp', read_write? h]
  unfold admits
  rw [hp', Option.any_some, accepts_save hread]

theorem admits_read (f : Field) (p : Parameters) : f.admits (f.read p) = f.accepts .save p := by
  obtain ⟨p', hp'⟩ := Option.isSome_iff_exists.mp ((f.write?_isSome {} (f.read p)).trans (f.ofType_read p))
  have hread : f.read p' = f.read p := by simp [read_write? hp']
  rw [admits_of_write hp', accepts_save hread]

theorem ofType_of_admits (h : f.admits v = true) : f.ofType v = true := by
  rw [← f.write?_isSome {} v]
  unfold admits at h
  cases hw : f.write? {} v with
  | none =>
    rw [hw] at h
    cases h
  | some p => rfl

theorem admits_unset (f : Field) : f.admits f.unset = true := by
  have h : ∀ f ∈ all, f.admits f.unset = true := by decide +kernel
  exact h f f.mem_all

end Field

/-! ## Room for a text -/

namespace Rules

variable {s : String}

theorem size_of_fits {low buffer : Nat} (h : fits low buffer s = true) : s.utf8ByteSize < buffer := by
  simp only [fits, Bool.and_eq_true, decide_eq_true_eq] at h
  exact h.2

theorem size_of_isEmpty (h : s.isEmpty = true) : s.utf8ByteSize = 0 := by
  simpa [String.isEmpty] using h

theorem size_of_emptyOrIpv4 (h : emptyOrIpv4 s = true) : s.utf8ByteSize < 40 := by
  simp only [emptyOrIpv4, Bool.or_eq_true, Bool.and_eq_true, decide_eq_true_eq] at h
  rcases h with hempty | ⟨hsize, -⟩
  · simp [size_of_isEmpty hempty]
  · exact hsize

theorem size_of_emptyOrIpv6 (h : emptyOrIpv6 s = true) : s.utf8ByteSize < 40 := by
  simp only [emptyOrIpv6, Bool.or_eq_true, Bool.and_eq_true, decide_eq_true_eq] at h
  rcases h with hempty | ⟨hsize, -⟩
  · simp [size_of_isEmpty hempty]
  · exact hsize

theorem size_of_ipv4Text {required : Bool} (h : ipv4Text required s = true) : s.utf8ByteSize < 40 := by
  unfold ipv4Text at h
  split at h
  · rename_i hempty
    simp [size_of_isEmpty hempty]
  · exact size_of_emptyOrIpv4 h

theorem size_of_isKey (h : isKey s = true) : s.utf8ByteSize < 65 := by
  unfold isKey keyLength at h
  split at h
  · rename_i hsize
    omega
  · rw [Bool.and_eq_true] at h
    have hfits := size_of_fits h.1
    omega

theorem size_of_stationKey {purpose : Purpose} (h : stationKey purpose s = true) : s.utf8ByteSize < 65 := by
  unfold stationKey at h
  rcases Bool.or_eq_true_iff.mp h with hempty | h
  · simp [size_of_isEmpty hempty]
  · cases purpose with
    | save => exact size_of_fits h
    | connect => exact size_of_isKey h

theorem size_of_apKey {purpose : Purpose} (h : apKey purpose s = true) : s.utf8ByteSize < 65 := by
  unfold apKey at h
  split at h
  · rename_i hempty
    simp [size_of_isEmpty hempty]
  · exact size_of_isKey h

end Rules

open Rules in
/-- Every rule of a text keeps room for its terminator. -/
theorem TextField.size_of_accepts {f : TextField} {p : Parameters} {purpose : Purpose}
    (h : (Field.text f).accepts purpose p = true) : (f.get p).utf8ByteSize < f.capacity := by
  cases f with
  | normalAddress => exact size_of_ipv4Text h
  | normalNetmask => exact size_of_ipv4Text h
  | normalGateway => exact size_of_emptyOrIpv4 h
  | normalDns => exact size_of_emptyOrIpv4 h
  | normalAddress6 => exact size_of_emptyOrIpv6 h
  | normalNetmask6 => exact size_of_emptyOrIpv6 h
  | normalGateway6 => exact size_of_emptyOrIpv6 h
  | normalDns6 => exact size_of_emptyOrIpv6 h
  | stationSsid => exact size_of_fits h
  | stationPassword => exact size_of_stationKey h
  | apAddress => exact size_of_ipv4Text h
  | apNetmask => exact size_of_ipv4Text h
  | apGateway => exact size_of_emptyOrIpv4 h
  | apDns => exact size_of_emptyOrIpv4 h
  | apSsid => exact size_of_fits (Bool.and_eq_true_iff.mp h).1
  | apPassword => exact size_of_apKey h
  | proxyUrl => exact size_of_fits h
  | proxyUsername => exact size_of_fits h
  | proxyPassword => exact size_of_fits h

/-! ## Stored forms -/

theorem Field.encode_of_accepts {f : Field} {p : Parameters} {purpose : Purpose} (h : f.accepts purpose p = true) :
    f.encode p = .ok (f.key, f.read p) := by
  cases f with
  | text f => exact if_pos (f.size_of_accepts h)
  | number f => rfl

theorem encodeAll_of_accepts {p : Parameters} {purpose : Purpose} {fs : List Field}
    (h : ∀ f ∈ fs, f.accepts purpose p = true) : encodeAll p fs = .ok (rowsOf p fs) := by
  induction fs with
  | nil => rfl
  | cons f fs ih =>
    have hrow := f.encode_of_accepts (h f (.head fs))
    have hrows := ih fun g hg => h g (.tail f hg)
    simp [encodeAll, hrow, hrows, rowsOf]

/-- Whatever a record was checked for, it can be stored. -/
theorem encode_of_validate {m : Mask} {p : Parameters} {purpose : Purpose} (h : validate m p purpose = .ok ()) :
    encode m p = .ok (rowsOf p m.fields) :=
  encodeAll_of_accepts fun f hf => validate_ok_iff.mp h f ((m.mem_fields f).mp hf)

end Connectivity
