/-
  Connectivity.Proofs.Storable — what can be started can be kept, and what can be kept can be stored.
  - `accepts_save_of_connect`: a connection asks of each field what keeping it does, and more.
  - `Roomy`: each text of a stored form is that of a selected field, with room for its terminator. So it is
    wherever the record was checked (`roomy_of_validate`).
  - `saveParameters_ne_tooLong`: a record that is kept is never refused for the size of a text.
-/

import Connectivity.Proofs.Runs
import Connectivity.Proofs.Validity

namespace Connectivity

/-! ## Rules -/

namespace Rules

variable {s : String}

theorem fits_mono {low low' buffer : Nat} (hle : low' ≤ low) (h : fits low buffer s = true) :
    fits low' buffer s = true := by
  simp only [fits, Bool.and_eq_true, decide_eq_true_eq] at h ⊢
  exact ⟨Nat.le_trans hle h.1, h.2⟩

theorem between_mono {low low' high n : Int} (hle : low' ≤ low) (h : between low high n = true) :
    between low' high n = true := by
  simp only [between, decide_eq_true_eq] at h ⊢
  exact ⟨Int.le_trans hle h.1, h.2⟩

/-- A text that may be required may also be left empty. -/
theorem ipv4Text_optional {required : Bool} (h : ipv4Text required s = true) : ipv4Text false s = true := by
  unfold ipv4Text at h ⊢
  split
  · rfl
  · rename_i hfilled
    rwa [if_neg hfilled] at h

theorem stationKey_save (h : stationKey .connect s = true) : stationKey .save s = true := by
  have hsize := size_of_stationKey h
  unfold stationKey fits
  simp [hsize]

theorem apKey_save (h : apKey .connect s = true) : apKey .save s = true := by
  unfold apKey at h ⊢
  split
  · rfl
  · rename_i hfilled
    rwa [if_neg hfilled] at h

end Rules

open Rules in
/-- A connection asks of each field what keeping it does, and more. -/
theorem Field.accepts_save_of_connect {f : Field} {p : Parameters} (h : f.accepts .connect p = true) :
    f.accepts .save p = true := by
  cases f with
  | text f =>
    cases f with
    | normalAddress => exact ipv4Text_optional h
    | normalNetmask => exact ipv4Text_optional h
    | stationSsid => exact fits_mono (Nat.zero_le _) h
    | stationPassword => exact stationKey_save h
    | apAddress => exact ipv4Text_optional h
    | apNetmask => exact ipv4Text_optional h
    | apSsid =>
      obtain ⟨hfits, hprintable⟩ := Bool.and_eq_true_iff.mp h
      exact Bool.and_eq_true_iff.mpr ⟨fits_mono (Nat.zero_le _) hfits, hprintable⟩
    | apPassword => exact apKey_save h
    | _ => exact h
  | number f =>
    cases f with
    | apChannel => exact between_mono (by decide) h
    | _ => exact h

theorem validate_save_of_connect {m : Mask} {p : Parameters} (h : validate m p .connect = .ok ()) :
    validate m p .save = .ok () :=
  validate_ok_iff.mpr fun f hf => f.accepts_save_of_connect (validate_ok_iff.mp h f hf)

/-! ## Stored forms -/

/-- Each text of the rows is that of a selected field, whose buffer has room for it and its terminator. -/
def Roomy (m : Mask) (p : Parameters) (rows : List (String × StoredValue)) : Prop :=
  ∀ key s, (key, .text s) ∈ rows →
    ∃ f : TextField, (Field.text f).key = key ∧ m.has (.text f) = true ∧ f.get p = s ∧ s.utf8ByteSize < f.capacity

theorem roomy_of_validate {m : Mask} {p : Parameters} {purpose : Purpose} (h : validate m p purpose = .ok ()) :
    Roomy m p (rowsOf p m.fields) := by
  intro key s hrow
  obtain ⟨f, hf, heq⟩ := List.mem_map.mp hrow
  have hselected : m.has f = true := (m.mem_fields f).mp hf
  cases f with
  | text f =>
    cases heq
    exact ⟨f, rfl, hselected, rfl, f.size_of_accepts (validate_ok_iff.mp h _ hselected)⟩
  | number f => cases heq

/-- Writing rows fails only where the store does. -/
theorem writeRows_error {τ : Type} {S : Store τ} {rows : List (String × StoredValue)} {t : τ} {err : Error}
    (h : (writeRows S rows t).1 = .error err) : ∃ e, err = .storage e := by
  induction rows generalizing t with
  | nil => cases h
  | cons row rows ih =>
    unfold writeRows at h
    split at h
    · exact ⟨_, (Except.error.inj h).symm⟩
    · exact ih h

namespace ControlPlane

variable {σ τ : Type}

theorem saveParameters_ne_tooLong (M : ControlPlane σ τ) (m : Mask) (p : Parameters) (s : State σ τ) (f : TextField) :
    (M.saveParameters m p s).1 ≠ .error (.tooLong f) := by
  intro hx
  unfold saveParameters at hx
  split at hx
  · cases hx
  · split at hx
    · rename_i hlock
      unfold Roster.lock at hlock
      (repeat' split at hlock) <;> cases hlock <;> cases hx
    · split at hx
      · rename_i hinvalid
        obtain ⟨g, rfl⟩ := validate_error hinvalid
        cases hx
      · rename_i hvalid
        simp only [saveFields, encode_of_validate hvalid] at hx
        obtain ⟨e, he⟩ := writeRows_error hx
        cases he

end ControlPlane

/-- A record that can be started can be kept; one that can be kept can be stored, and each text of its stored
    form leaves room for its terminator. So nothing that is kept is ever refused for the size of a text. -/
theorem startable_storable (m : Mask) (p : Parameters) :
    (validate m p .connect = .ok () → validate m p .save = .ok ()) ∧
    (validate m p .save = .ok () → ∃ rows, encode m p = .ok rows ∧ Roomy m p rows) ∧
    ∀ {σ τ : Type} (M : ControlPlane σ τ) (s : ControlPlane.State σ τ) (f : TextField),
      (M.saveParameters m p s).1 ≠ .error (.tooLong f) :=
  ⟨validate_save_of_connect, fun h => ⟨_, encode_of_validate h, roomy_of_validate h⟩,
    fun M s f => M.saveParameters_ne_tooLong m p s f⟩

/-- The camera's own network can be started and kept, and its stored form has room. -/
theorem Camera.hotspot_storable :
    validate .accessPoint hotspot .connect = .ok () ∧ validate .accessPoint hotspot .save = .ok () ∧
      ∃ rows, encode .accessPoint hotspot = .ok rows ∧ Roomy .accessPoint hotspot rows := by
  obtain ⟨hsave, hstore, -⟩ := startable_storable .accessPoint hotspot
  have hconnect : validate .accessPoint hotspot .connect = .ok () := by decide +kernel
  exact ⟨hconnect, hsave hconnect, hstore (hsave hconnect)⟩

end Connectivity
