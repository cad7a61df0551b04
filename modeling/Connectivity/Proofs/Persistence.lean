/-
  Connectivity.Proofs.Persistence — what is loaded is what was saved last, field by field.
  - `Saves`: calls that save and succeed, whose masks may overlap. `lastSaved?` reads off them what was last
    saved for a field.
  - `saveParameters_ok`, `loadParameters_ok`: a save that succeeds writes the fields of its mask and no
    other key, and a load reads the fields of its mask into a record and leaves the others.
  - `saves_loaded`: so a load finds for each field what was last saved for it, else what was stored before.
-/

import Connectivity.Proofs.Changes
import Connectivity.Proofs.Stores

namespace Connectivity

/-! ## Contents -/

namespace Contents

variable {c : Contents}

theorem valueOf_written (c : Contents) (p : Parameters) (fs : List Field) (f : Field) :
    (c.written (rowsOf p fs)).valueOf f = if f ∈ fs then f.read p else c.valueOf f := by
  simp only [valueOf, written_key]
  split <;> rfl

theorem Typed.written (hc : c.Typed) (p : Parameters) (fs : List Field) : (c.written (rowsOf p fs)).Typed := by
  intro f v hv
  rw [written_key] at hv
  split at hv
  · cases hv
    exact f.ofType_read p
  · exact hc f v hv

end Contents

/-- What was last saved for a field, if anything was. -/
def lastSaved? (f : Field) : List (Mask × Parameters) → Option StoredValue
  | [] => none
  | (m, p) :: past => if m.has f then some (f.read p) else lastSaved? f past

namespace ControlPlane

variable {σ τ : Type} {M : ControlPlane σ τ} {s s₀ : State σ τ} {contents : τ → Contents} {working : τ → Prop}
  {past : List (Mask × Parameters)}

variable (M) in
/-- Calls that save parameters or a section, all of which succeed, with what they save, the latest first. -/
inductive Saves (s₀ : State σ τ) : List (Mask × Parameters) → State σ τ → Prop
  | none : Saves s₀ [] s₀
  | parameters {past : List (Mask × Parameters)} {s : State σ τ} (m : Mask) (p : Parameters) :
      Saves s₀ past s → (M.saveParameters m p s).1 = .ok () →
      Saves s₀ ((m, p) :: past) (M.saveParameters m p s).2
  | ofSection {past : List (Mask × Parameters)} {s : State σ τ} (x : Section) :
      Saves s₀ past s → (M.saveSection x s).1 = .ok () →
      Saves s₀ ((x.name.mask, x.toParameters) :: past) (M.saveSection x s).2

/-! ## One call -/

/-- A save that succeeds writes the selected fields and nothing else. -/
theorem saveParameters_ok (hS : M.store.Keeps contents) {m : Mask} {p : Parameters}
    (h : (M.saveParameters m p s).1 = .ok ()) :
    m.isEmpty = false ∧ contents (M.saveParameters m p s).2.store = (contents s.store).written (rowsOf p m.fields) := by
  unfold saveParameters at h ⊢
  split at h
  · cases h
  · rename_i hm
    rw [if_neg hm]
    split at h
    · cases h
    · split at h
      · cases h
      · exact ⟨eq_false_of_ne_true hm, saveFields_ok hS h⟩

theorem working_saveParameters (hU : M.store.Unfailing working) (hw : working s.store) (m : Mask) (p : Parameters) :
    working (M.saveParameters m p s).2.store := by
  unfold saveParameters
  split
  · exact hw
  · split
    · exact hw
    · split
      · exact hw
      · exact hU.saveFields m p hw

/-- A load gives the selected fields as they are stored, and the others as they were. -/
theorem loadParameters_ok (hS : M.store.Keeps contents) (hA : M.store.Answering working) (hw : working s.store)
    {r : Modes} (hlock : s.roster.lock = .ok r) (hc : (contents s.store).Typed) {m : Mask} (hm : m.isEmpty = false)
    (q : Parameters) :
    ∃ p s', M.loadParameters m q s = (.ok (), p, s') ∧
      ∀ f : Field, f.read p = if m.has f then (contents s.store).valueOf f else f.read q := by
  obtain ⟨⟨n, hloaded⟩, hread⟩ := loadFields_ok hS hA m q hw fun f _ => hc.valueOf f
  refine ⟨_, { s with store := (loadFields M.store m q s.store).2 }, ?_, hread⟩
  rw [loadParameters_of_lock M hlock hm]
  simp only [hloaded]

/-! ## Calls one after the other -/

/-- A section is saved as the parameters that it makes up, so one kind of call is all there is. -/
theorem Saves.induct {motive : (past : List (Mask × Parameters)) → (s : State σ τ) → M.Saves s₀ past s → Prop}
    (none : motive [] s₀ .none)
    (save : ∀ {past s} m p (hs : M.Saves s₀ past s) (hok : (M.saveParameters m p s).1 = .ok ()),
      motive past s hs → motive ((m, p) :: past) (M.saveParameters m p s).2 (.parameters m p hs hok))
    {past : List (Mask × Parameters)} {s : State σ τ} (hs : M.Saves s₀ past s) : motive past s hs := by
  induction hs with
  | none => exact none
  | parameters m p hs hok ih => exact save m p hs hok ih
  | ofSection x hs hok ih => exact save x.name.mask x.toParameters hs hok ih

theorem Saves.kept (hs : M.Saves s₀ past s) (hS : M.store.Keeps contents) :
    s.roster = s₀.roster ∧
      (∀ f : Field, contents s.store f.key = (lastSaved? f past).or (contents s₀.store f.key)) ∧
      ∀ key, (∀ x ∈ past, ∀ f, x.1.has f = true → f.key ≠ key) → contents s.store key = contents s₀.store key := by
  induction hs using Saves.induct with
  | none => exact ⟨rfl, fun _ => rfl, fun _ _ => rfl⟩
  | @save past s m p _ hok ih =>
    obtain ⟨hroster, hfield, hother⟩ := ih
    obtain ⟨-, hwritten⟩ := saveParameters_ok hS hok
    refine ⟨(congrArg State.roster (saveParameters_frame m p s)).trans hroster, fun f => ?_, fun key hkey => ?_⟩
    · rw [hwritten, written_key, hfield]
      simp only [m.mem_fields, lastSaved?]
      split <;> rfl
    · rw [hwritten, written_of_ne _ p fun f hf => hkey (m, p) (.head past) f ((m.mem_fields f).mp hf)]
      exact hother key fun x hx => hkey x (.tail _ hx)

theorem Saves.works (hs : M.Saves s₀ past s) (hU : M.store.Unfailing working) (hw : working s₀.store) :
    working s.store := by
  induction hs using Saves.induct with
  | none => exact hw
  | save m p _ _ ih => exact working_saveParameters hU ih m p

theorem Saves.typed (hs : M.Saves s₀ past s) (hS : M.store.Keeps contents) (hc : (contents s₀.store).Typed) :
    (contents s.store).Typed := by
  induction hs using Saves.induct with
  | none => exact hc
  | save m p _ hok ih =>
    rw [(saveParameters_ok hS hok).2]
    exact ih.written p m.fields

/-- In a store that does not fail, after any saves that succeeded: a load gives each selected field the value
    that was last saved for it, else the one that was stored before, else the one an absent key stands for,
    and leaves the other fields. Keys that no save selected are as they were. Everything that is saved is
    loaded as it was saved, and so is a section. -/
theorem saves_loaded (hS : M.store.Keeps contents) (hU : M.store.Unfailing working) (hw : working s₀.store) {r : Modes}
    (hlock : s₀.roster.lock = .ok r) (hc : (contents s₀.store).Typed) (hs : M.Saves s₀ past s) :
    (∀ (m : Mask) q, m.isEmpty = false → ∃ p s', M.loadParameters m q s = (.ok (), p, s') ∧
      ∀ f : Field, f.read p =
        if m.has f then ((lastSaved? f past).or (contents s₀.store f.key)).getD f.unset else f.read q) ∧
    (∀ key, (∀ x ∈ past, ∀ f, x.1.has f = true → f.key ≠ key) → contents s.store key = contents s₀.store key) ∧
    (∀ (m : Mask) p, (∀ f, m.has f = true) → (M.saveParameters m p s).1 = .ok () →
      ∀ q, ∃ s', M.loadParameters m q (M.saveParameters m p s).2 = (.ok (), p, s')) ∧
    ∀ x : Section, (M.saveSection x s).1 = .ok () → (M.loadSection x.name (M.saveSection x s).2).1 = .ok x := by
  obtain ⟨hroster, hfield, hother⟩ := hs.kept hS
  have hw := hs.works hU hw
  have hc := hs.typed hS hc
  have hlock : s.roster.lock = .ok r := hroster ▸ hlock
  -- What a load finds after one more save.
  have hagain {m : Mask} {p : Parameters} (h : (M.saveParameters m p s).1 = .ok ()) (q : Parameters) :
      ∃ p' s', M.loadParameters m q (M.saveParameters m p s).2 = (.ok (), p', s') ∧
        ∀ f, m.has f = true → f.read p' = f.read p := by
    obtain ⟨hm, hwritten⟩ := saveParameters_ok hS h
    have hlock' : (M.saveParameters m p s).2.roster.lock = .ok r :=
      (congrArg State.roster (saveParameters_frame m p s)).symm ▸ hlock
    have hc' : (contents (M.saveParameters m p s).2.store).Typed := hwritten ▸ hc.written p m.fields
    obtain ⟨p', s', hloaded, hread⟩ :=
      loadParameters_ok hS hU.answering (working_saveParameters hU hw m p) hlock' hc' hm q
    refine ⟨p', s', hloaded, fun f hf => ?_⟩
    rw [hread, if_pos hf, hwritten, Contents.valueOf_written, if_pos ((m.mem_fields f).mpr hf)]
  refine ⟨fun m q hm => ?_, hother, fun m p hfull h q => ?_, fun x h => ?_⟩
  · obtain ⟨p, s', hloaded, hread⟩ := loadParameters_ok hS hU.answering hw hlock hc hm q
    refine ⟨p, s', hloaded, fun f => ?_⟩
    rw [hread, Contents.valueOf, hfield]
  · obtain ⟨p', s', hloaded, hread⟩ := hagain h q
    obtain rfl : p' = p := Parameters.ext_read fun f => hread f (hfull f)
    exact ⟨s', hloaded⟩
  · obtain ⟨p', s', hloaded, hread⟩ := hagain (m := x.name.mask) (p := x.toParameters) h {}
    have hsection : Section.ofParameters p' x.name = Section.ofParameters x.toParameters x.name :=
      Section.ext_read fun f hf => hread f ((x.name.has_mask f).mpr hf)
    have hload : M.loadParameters x.name.mask {} (M.saveSection x s).2 = (.ok (), p', s') := hloaded
    simp only [loadSection, hload, Except.map, hsection, Section.ofParameters_toParameters]

end ControlPlane

namespace Camera

open Simulation ControlPlane

/-- A camera that finds the port of a proxy in its store. -/
def proxied : PlaneState :=
  plane.run [.setUp]
    { off with store := { inner := { entries := Table.empty.insert "proxy.port" (.number 8080) } } }

/-- Another network, without the password of the first. -/
def office : Parameters := { normal := { station := { ssid := "office" } } }

def ssid : Mask := .single (.text .stationSsid)

/-- A section was saved, and then one field of it again. -/
def resaved : PlaneState := (plane.saveParameters ssid office (plane.saveSection (.normal home.normal) proxied).2).2

theorem resaved_loaded :
    let contents : Shelf → Contents := fun t => t.inner.entries.find?
    let past := [(ssid, office), (SectionName.normal.mask, (Section.normal home.normal).toParameters)]
    (lastSaved? (.text .stationSsid) past, lastSaved? (.number .netifKind) past, lastSaved? (.number .proxyPort) past) =
      (some (.text "office"), some (.number 0), none) ∧
    contents proxied.store (Field.number .proxyPort).key = some (.number 8080) ∧
    (∀ (m : Mask) q, m.isEmpty = false → ∃ p s', plane.loadParameters m q resaved = (.ok (), p, s') ∧
      ∀ f : Field, f.read p =
        if m.has f then ((lastSaved? f past).or (contents proxied.store f.key)).getD f.unset else f.read q) ∧
    (∀ key, (∀ x ∈ past, ∀ f, x.1.has f = true → f.key ≠ key) →
      contents resaved.store key = contents proxied.store key) ∧
    (∀ (m : Mask) p, (∀ f, m.has f = true) → (plane.saveParameters m p resaved).1 = .ok () →
      ∀ q, ∃ s', plane.loadParameters m q (plane.saveParameters m p resaved).2 = (.ok (), p, s')) ∧
    ∀ x : Section, (plane.saveSection x resaved).1 = .ok () →
      (plane.loadSection x.name (plane.saveSection x resaved).2).1 = .ok x := by
  intro contents past
  have hS : plane.store.Keeps contents := keeps_faultyStore VolatileStore.keeps
  have hU : plane.store.Unfailing _ := unfailing_faultyStore VolatileStore.unfailing
  have hstore : proxied.store = { inner := { entries := Table.empty.insert "proxy.port" (.number 8080) } } := rfl
  have hw : (∀ k, proxied.store.queue k = []) ∧ proxied.store.inner.readOnly = false := by
    rw [hstore]
    exact ⟨fun _ => rfl, rfl⟩
  obtain ⟨r, hlock⟩ := Roster.exists_lock (r := proxied.roster) (by decide +kernel)
  have hc : (contents proxied.store).Typed := by
    have hall : ∀ f ∈ Field.all, (contents proxied.store f.key).all f.ofType = true := by decide +kernel
    intro f v hv
    have hf := hall f f.mem_all
    rw [hv] at hf
    exact hf
  have hs : plane.Saves proxied past resaved :=
    (Saves.none.ofSection (.normal home.normal) (by decide +kernel)).parameters ssid office (by decide +kernel)
  exact ⟨by decide +kernel, by decide +kernel, saves_loaded hS hU hw hlock hc hs⟩

end Camera

end Connectivity
