/-
  Connectivity.Proofs.Interruptions — what saves and loads that fail have done.
  - `saveParameters_cases`: a save is refused before anything is written, or it writes fields in their order up
    to the first that the store refuses, and what was written stays.
  - `loadParameters_cases`: a load reads fields in their order into a copy, up to the first that cannot be read;
    the copy takes the place of the caller's record only if all could be.
  - `failures_in_order`: so it is told by the kind of an error what has been done. A save is never refused
    because a text does not fit, since the rules keep room for it (`encode_of_validate`).
-/

import Connectivity.Proofs.Persistence
import Connectivity.Proofs.Validity

namespace Connectivity

namespace ControlPlane

variable {σ τ : Type} {M : ControlPlane σ τ} {s : State σ τ} {contents : τ → Contents}

/-! ## Saves -/

/-- A save is refused before it writes anything, or all is written, or the store refuses one of the fields
    after it took those before it. -/
theorem saveParameters_cases (hS : M.store.Keeps contents) {r : Modes} (hlock : s.roster.lock = .ok r) (m : Mask)
    (p : Parameters) :
    (∃ e, M.saveParameters m p s = (.error e, s) ∧ e.kind = .invalidParameter ∧
      (m.isEmpty = false → validate m p .save ≠ .ok ())) ∨
    (∃ t, M.saveParameters m p s = (.ok (), { s with store := t }) ∧
      validate m p .save = .ok () ∧ contents t = (contents s.store).written (rowsOf p m.fields)) ∨
    ∃ done f rest t err t', m.fields = done ++ f :: rest ∧ validate m p .save = .ok () ∧
      writeRows M.store (rowsOf p done) s.store = (.ok (), t) ∧ (M.store.save f.key (f.read p) t).1 = .error err ∧
      M.saveParameters m p s = (.error (.storage err), { s with store := t' }) ∧
      contents t' = (contents s.store).written (rowsOf p done) := by
  by_cases hm : m.isEmpty = true
  · exact .inl ⟨.emptyMask, by simp [saveParameters, hm], rfl, fun h => absurd (h.symm.trans hm) Bool.false_ne_true⟩
  cases hvalid : validate m p .save with
  | error e =>
    obtain ⟨f, rfl⟩ := validate_error hvalid
    exact .inl ⟨.rejected f .save, by simp [saveParameters, hm, hlock, hvalid], rfl, nofun⟩
  | ok =>
    right
    have hsave : M.saveParameters m p s =
        ((writeRows M.store (rowsOf p m.fields) s.store).1,
          { s with store := (writeRows M.store (rowsOf p m.fields) s.store).2 }) := by
      simp [saveParameters, hm, hlock, hvalid, saveFields, encode_of_validate hvalid]
    rcases writeRows_cases hS (rowsOf p m.fields) s.store with
      ⟨hok, hc⟩ | ⟨done, row, rest, t, err, hrows, hdone, hrefused, herr, hc⟩
    · exact .inl ⟨_, by rw [hsave, hok], rfl, hc⟩
    · -- Rows are fields of the mask, each in its place.
      obtain ⟨fs, gs, hfields, rfl, hgs⟩ := List.map_eq_append_iff.mp hrows
      obtain ⟨f, gs, rfl, rfl, rfl⟩ := List.map_eq_cons_iff.mp hgs
      exact .inr ⟨fs, f, gs, t, err, _, hfields, rfl, hdone, hrefused, by rw [hsave, herr], hc⟩

/-! ## Loads -/

/-- A load that selects nothing is refused; or all is read, and the caller's record is the copy that was filled;
    or a field cannot be read, and the copy, in which the fields before it were filled, is given up. -/
theorem loadParameters_cases (hS : M.store.Keeps contents) {r : Modes} (hlock : s.roster.lock = .ok r) (m : Mask)
    (q : Parameters) :
    (m.isEmpty = true ∧ M.loadParameters m q s = (.error .emptyMask, q, s)) ∨
    (m.isEmpty = false ∧ M.store.Readable contents m.fields s.store ∧
      ∃ p s', M.loadParameters m q s = (.ok (), p, s') ∧
        p = (loadFields M.store m q s.store).1.parameters ∧
        ∀ g : Field, g.read p = if m.has g then (contents s.store).valueOf g else g.read q) ∨
    (m.isEmpty = false ∧ ∃ done f rest err s', m.fields = done ++ f :: rest ∧
      M.store.Readable contents done s.store ∧ M.store.Unreadable contents f (M.store.readAll done s.store) ∧
      M.loadParameters m q s = (.error (.storage err), q, s')) := by
  by_cases hm : m.isEmpty = true
  · exact .inl ⟨hm, by simp [loadParameters, hm]⟩
  have hm := eq_false_of_ne_true hm
  right
  have hload := loadParameters_of_lock M hlock hm q
  rcases loadFields_cases hS m q s.store with
    ⟨⟨n, hok⟩, hreadable, hread⟩ | ⟨done, f, rest, err, hfields, hreadable, hf, herr, -⟩
  · simp only [hok] at hload
    exact .inl ⟨hm, hreadable, _, _, hload, rfl, hread⟩
  · simp only [herr] at hload
    exact .inr ⟨hm, done, f, rest, err, _, hfields, hreadable, hf, hload⟩

/-- A load fails where it selects nothing or comes upon a field that cannot be read. -/
theorem loadParameters_error_iff (hS : M.store.Keeps contents) {r : Modes} (hlock : s.roster.lock = .ok r) (m : Mask)
    (q : Parameters) :
    (∃ e, (M.loadParameters m q s).1 = .error e) ↔
      m.isEmpty = true ∨ ∃ done f rest, m.fields = done ++ f :: rest ∧
        M.store.Unreadable contents f (M.store.readAll done s.store) := by
  rcases loadParameters_cases hS hlock m q with
    ⟨hm, hload⟩ | ⟨hm, hreadable, p, s', hload, -⟩ | ⟨-, done, f, rest, err, s', hfields, -, hf, hload⟩ <;> rw [hload]
  · exact ⟨fun _ => .inl hm, fun _ => ⟨_, rfl⟩⟩
  · refine ⟨fun ⟨e, he⟩ => (by cases he), fun h => ?_⟩
    rcases h with hempty | ⟨done, f, rest, hfields, hf⟩
    · exact absurd (hm.symm.trans hempty) Bool.false_ne_true
    · rw [hfields] at hreadable
      exact absurd hf hreadable.not_unreadable
  · exact ⟨fun _ => .inr ⟨done, f, rest, hfields, hf⟩, fun _ => ⟨_, rfl⟩⟩

/-- The control plane is set up. A save that fails for what it was given has written nothing. One that fails
    for the store has written the selected fields before the first that the store refused, and no other key;
    nothing that was accepted is refused when it is encoded. A load fails if and only if it selects nothing or a
    selected field cannot be read when its turn comes. The caller's record is as it was then, while the reading
    has filled in the fields before that one in its copy. A load that succeeds leaves the fields it does not
    select. -/
theorem failures_in_order (hS : M.store.Keeps contents) {r : Modes} (hlock : s.roster.lock = .ok r) (m : Mask)
    (p q : Parameters) :
    (∀ e s', M.saveParameters m p s = (.error e, s') → e.kind = .invalidParameter → s' = s) ∧
    (∀ e s', M.saveParameters m p s = (.error e, s') → e.kind = .external →
      ∃ done f rest t err, m.fields = done ++ f :: rest ∧
        writeRows M.store (rowsOf p done) s.store = (.ok (), t) ∧ (M.store.save f.key (f.read p) t).1 = .error err ∧
        (∀ g ∈ done, contents s'.store g.key = some (g.read p)) ∧
        (∀ key, (∀ g ∈ done, g.key ≠ key) → contents s'.store key = contents s.store key) ∧
        s' = { s with store := s'.store }) ∧
    (validate m p .save = .ok () → ∃ rows, encode m p = .ok rows) ∧
    ((∃ e, (M.loadParameters m q s).1 = .error e) ↔
      m.isEmpty = true ∨ ∃ done f rest, m.fields = done ++ f :: rest ∧
        M.store.Unreadable contents f (M.store.readAll done s.store)) ∧
    (∀ e, (M.loadParameters m q s).1 = .error e → (M.loadParameters m q s).2.1 = q) ∧
    (∀ e, (loadFields M.store m q s.store).1.result = .error e →
      ∃ done f rest, m.fields = done ++ f :: rest ∧ M.store.Readable contents done s.store ∧
        M.store.Unreadable contents f (M.store.readAll done s.store) ∧
        ∀ g : Field, g.read (loadFields M.store m q s.store).1.parameters =
          if g ∈ done then (contents s.store).valueOf g else g.read q) ∧
    ((M.loadParameters m q s).1 = .ok () →
      ∀ g : Field, m.has g = false → g.read (M.loadParameters m q s).2.1 = g.read q) := by
  have hsaves := saveParameters_cases hS hlock m p
  have hloads := loadParameters_cases hS hlock m q
  refine ⟨fun e s' h he => ?_, fun e s' h he => ?_, fun h => ⟨_, encode_of_validate h⟩,
    loadParameters_error_iff hS hlock m q, fun e he => ?_, fun e he => ?_, fun _ g hg => ?_⟩
  · rcases hsaves with ⟨_, hsave, -⟩ | ⟨_, hsave, -⟩ | ⟨_, _, _, _, _, _, -, -, -, -, hsave, -⟩ <;>
      cases hsave.symm.trans h
    · rfl
    · cases he
  · rcases hsaves with ⟨_, hsave, hkind, -⟩ | ⟨_, hsave, -⟩ |
      ⟨done, f, rest, t, err, t', hfields, -, hdone, hrefused, hsave, hc⟩ <;> cases hsave.symm.trans h
    · rw [hkind] at he
      cases he
    · refine ⟨done, f, rest, t, err, hfields, hdone, hrefused, fun g hg => ?_, fun key hkey => ?_, rfl⟩
      · exact (congrFun hc g.key).trans ((written_key _ p done g).trans (if_pos hg))
      · exact (congrFun hc key).trans (written_of_ne _ p hkey)
  · rcases hloads with ⟨-, hload⟩ | ⟨-, -, _, _, hload, -⟩ | ⟨-, _, _, _, _, _, -, -, -, hload⟩
    · rw [hload]
    · rw [hload] at he
      cases he
    · rw [hload]
  · rcases loadFields_cases hS m q s.store with
      ⟨⟨_, hok⟩, -⟩ | ⟨done, f, rest, _, hfields, hreadable, hf, -, hread⟩
    · cases hok.symm.trans he
    · exact ⟨done, f, rest, hfields, hreadable, hf, hread⟩
  · rcases hloads with ⟨-, hload⟩ | ⟨-, -, p', _, hload, -, hread⟩ | ⟨-, _, _, _, _, _, -, -, -, hload⟩
    · rw [hload]
    · rw [hload]
      exact (hread g).trans (if_neg (by rw [hg]; exact Bool.false_ne_true))
    · rw [hload]

end ControlPlane

namespace Camera

open Simulation ControlPlane

/-- A camera whose store will not take a password, and has a number where the address of a proxy should be. -/
def worn : PlaneState :=
  plane.run [.setUp]
    { off with
      store :=
        { inner := { entries := Table.empty.insert "proxy.url" (.number 1) }
          faults := Table.empty.insert (.save "normal.sta_password") [⟨.backend "worn out", 0⟩] } }

/-- What the station needs, and the proxy. -/
def outward : Mask := Mask.station.union .proxy

theorem worn_in_order :
    let contents : Shelf → Contents := fun t => t.inner.entries.find?
    (plane.saveParameters outward home worn).1 = .error (.storage (.backend "worn out")) ∧
    contents (plane.saveParameters outward home worn).2.store "normal.sta_ssid" = some (.text "home") ∧
    (plane.loadParameters outward home worn).1 = .error (.storage (.corrupt "proxy.url" "unexpected value type")) ∧
    (∀ e s', plane.saveParameters outward home worn = (.error e, s') → e.kind = .invalidParameter → s' = worn) ∧
    (∀ e s', plane.saveParameters outward home worn = (.error e, s') → e.kind = .external →
      ∃ done f rest t err, outward.fields = done ++ f :: rest ∧
        writeRows plane.store (rowsOf home done) worn.store = (.ok (), t) ∧
        (plane.store.save f.key (f.read home) t).1 = .error err ∧
        (∀ g ∈ done, contents s'.store g.key = some (g.read home)) ∧
        (∀ key, (∀ g ∈ done, g.key ≠ key) → contents s'.store key = contents worn.store key) ∧
        s' = { worn with store := s'.store }) ∧
    (validate outward home .save = .ok () → ∃ rows, encode outward home = .ok rows) ∧
    ((∃ e, (plane.loadParameters outward home worn).1 = .error e) ↔
      outward.isEmpty = true ∨ ∃ done f rest, outward.fields = done ++ f :: rest ∧
        plane.store.Unreadable contents f (plane.store.readAll done worn.store)) ∧
    (∀ e, (plane.loadParameters outward home worn).1 = .error e →
      (plane.loadParameters outward home worn).2.1 = home) ∧
    (∀ e, (loadFields plane.store outward home worn.store).1.result = .error e →
      ∃ done f rest, outward.fields = done ++ f :: rest ∧ plane.store.Readable contents done worn.store ∧
        plane.store.Unreadable contents f (plane.store.readAll done worn.store) ∧
        ∀ g : Field, g.read (loadFields plane.store outward home worn.store).1.parameters =
          if g ∈ done then (contents worn.store).valueOf g else g.read home) ∧
    ((plane.loadParameters outward home worn).1 = .ok () →
      ∀ g : Field, outward.has g = false → g.read (plane.loadParameters outward home worn).2.1 = g.read home) := by
  intro contents
  have hS : plane.store.Keeps contents := keeps_faultyStore VolatileStore.keeps
  obtain ⟨r, hlock⟩ := Roster.exists_lock (r := worn.roster) (by decide +kernel)
  exact ⟨by decide +kernel, by decide +kernel, by decide +kernel, failures_in_order hS hlock outward home home⟩

end Camera

end Connectivity
