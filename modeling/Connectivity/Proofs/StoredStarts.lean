/-
  Connectivity.Proofs.StoredStarts — a start from the store is a start with what was saved there.
  - `storedParameters_saved`: after a mode's section was saved, its field that is probed is there, and what is
    loaded is that section, the other sections not being set.
  - `unstored`: what a call answers and leaves but for the store. A call that goes on with the same parameters
    comes to the same (`unstored_bringUp`, `unstored_start`).
  - `reach_stored_start`: so whether it succeeds or fails, a start from the store differs in nothing from a
    start with the parameters given.
-/

import Connectivity.Proofs.FailedStarts

namespace Connectivity

variable {σ τ α : Type} {contents : τ → Contents} {working : τ → Prop}

/-! ## What is in the store -/

theorem holds_single {S : Store τ} (hS : S.Keeps contents) (hA : S.Answering working) (f : Field) {t : τ}
    (ht : working t) : ∃ t', holds S (.single f) t = (.ok (contents t f.key).isSome, t') ∧ working t' ∧
      contents t' = contents t := by
  have hfind : Field.all.find? (fun g => Mask.single g = Mask.single f) = some f := by
    rcases f with f | f <;> cases f <;> decide
  obtain ⟨⟨v?, hanswer⟩, ht'⟩ := hA.load f.key t ht
  have hkept := hS.loading f.key t
  cases hx : S.load f.key t with
  | mk answer t' =>
    rw [hx] at hanswer ht' hkept
    obtain rfl : answer = .ok v? := hanswer
    obtain rfl := hS.loads hx
    exact ⟨t', by simp only [holds, hfind, hx], ht', hkept⟩

namespace ControlPlane

variable {M : ControlPlane σ τ} {s : State σ τ}

theorem has_probe (mode : Mode) : (sectionOf mode).mask.has (probe mode) = true := by
  cases mode <;> decide

/-- After a mode's section was written, it is what the store has for the mode. -/
theorem storedParameters_saved (hS : M.store.Keeps contents) (hA : M.store.Answering working)
    (hw : working s.store) {mode : Mode} {c : Contents} {p : Parameters}
    (hc : contents s.store = c.written (rowsOf p (sectionOf mode).mask.fields)) :
    ∃ store, M.storedParameters mode s =
      (.ok (Section.ofParameters p (sectionOf mode)).toParameters, { s with store }) := by
  have hvalue (f : Field) (hf : (sectionOf mode).mask.has f = true) : (contents s.store).valueOf f = f.read p := by
    rw [hc, Contents.valueOf_written, if_pos ((Mask.mem_fields _ f).mpr hf)]
  obtain ⟨t, hprobe, ht, hkept⟩ := holds_single hS hA (probe mode) hw
  have hpresent : (contents s.store (probe mode).key).isSome = true := by
    rw [hc, written_key, if_pos ((Mask.mem_fields _ _).mpr (has_probe mode))]
    rfl
  have htyped (f : Field) (hf : (sectionOf mode).mask.has f = true) : f.ofType ((contents t).valueOf f) = true := by
    rw [hkept, hvalue f hf]
    exact f.ofType_read p
  obtain ⟨⟨n, hok⟩, hread⟩ := loadFields_ok hS hA (sectionOf mode).mask {} ht htyped
  have hloaded : (loadFields M.store (sectionOf mode).mask {} t).1.parameters =
      (Section.ofParameters p (sectionOf mode)).toParameters := by
    refine Parameters.ext_read fun f => ?_
    simp only [hread, Section.read_toParameters, ← (sectionOf mode).has_mask f]
    split
    · rename_i hf
      rw [hkept, hvalue f hf]
    · rfl
  refine ⟨(loadFields M.store (sectionOf mode).mask {} t).2, ?_⟩
  rw [hpresent] at hprobe
  simp only [storedParameters, hprobe, hok, hloaded]
  rfl

/-! ## Calls beside the store -/

/-- What a call answers, and the state that it leaves but for what is stored. -/
def unstored (x : Except Error α × State σ τ) : Except Error α × Roster × Env σ × List Notice :=
  (x.1, x.2.roster, x.2.env, x.2.notices)

theorem unstored_bringUp (m : ModeState) (kind : InterfaceKind) (p : Parameters) (s : State σ τ) (store : τ) :
    unstored (M.bringUp m kind p { s with store }) = unstored (M.bringUp m kind p s) := by
  unfold bringUp
  simp only
  split
  · rfl
  · simp only [unstored, State.tell, State.mode?, State.update]
    split <;> rfl

theorem unstored_withMode {h : Handle} {isControl : Bool} {run run' : ModeState → Operation σ τ α}
    (hrun : ∀ mode r roster, s.roster.modeOf h = .ok mode → s.roster.modes = some r →
      unstored (run (r.get mode) { s with roster }) = unstored (run' (r.get mode) { s with roster })) :
    unstored (withMode h isControl run s) = unstored (withMode h isControl run' s) := by
  have hmodes := Roster.modes_enter h isControl s.roster
  unfold withMode withHandle
  cases hx : s.roster.enter h isControl with
  | mk answer roster =>
    rw [hx] at hmodes
    cases answer with
    | error err => rfl
    | ok g =>
      cases hl : roster.lock with
      | error err => simp only [hl]
      | ok r =>
        have hsame := hrun g.mode r roster (Roster.modeOf_enter hx) (hmodes ▸ (Roster.lock_eq_ok hl).2)
        simp only [hl]
        simp only [unstored, Prod.mk.injEq] at hsame ⊢
        obtain ⟨hresult, hroster, henv, hnotices⟩ := hsame
        exact ⟨hresult, congrArg (Roster.leave g) hroster, henv, hnotices⟩

/-- A start that finds parameters in the store goes on as one to which they are given. -/
theorem unstored_start {h : Handle} {source : ParameterSource} {p : Parameters}
    (hresolve : ∀ mode r roster, s.roster.modeOf h = .ok mode → s.roster.modes = some r →
      ∃ store, M.resolve (r.get mode) source { s with roster } = (.ok p, { s with roster, store })) :
    unstored (M.start h source s) = unstored (M.start h (.given p) s) := by
  refine unstored_withMode fun mode r roster hm hr => ?_
  obtain ⟨store, hfound⟩ := hresolve mode r roster hm hr
  split
  · rfl
  · have hgiven : M.resolve (r.get mode) (.given p) { s with roster } = (.ok p, { s with roster }) := rfl
    rw [hfound, hgiven]
    simp only
    cases checkedKind (r.get mode).mode p with
    | error err => rfl
    | ok kind => exact unstored_bringUp (r.get mode) kind p { s with roster } store

/-- Given parameters are checked, and if they are good for a connection, the interface is brought up. -/
theorem start_given {r : Modes} {mode : Mode} {h : Handle} {p : Parameters} (ha : Accounted s.roster [])
    (hl : r.Labelled) (hlock : s.roster.lock = .ok r) (hh : s.roster.Controls mode h)
    (hd : (r.get mode).status = .disconnected) :
    (M.start h (.given p) s).1 =
      (checkedKind mode p).bind fun kind => (Link.start M.platform kind p (r.get mode).cleared s.env).1 := by
  obtain ⟨hfree, hr⟩ := Roster.lock_eq_ok hlock
  rcases withMode_granted (hh.enter ha nofun) hr _ with ⟨hlocked, -⟩ | ⟨s', hs', -, hres, -⟩
  · rw [hlocked] at hfree
    cases hfree
  · have hres : (M.start h (.given p) s).1 = _ := hres
    have henv : s'.env = s.env := congrArg Prod.snd hs'
    rw [hres, if_neg (not_not.mpr hd)]
    simp only [resolve, hl mode]
    cases checkedKind mode p with
    | error err => rfl
    | ok kind => simp only [bringUp_result, henv]; rfl

theorem lock_of_saveParameters {m : Mask} {p : Parameters} (h : (M.saveParameters m p s).1 = .ok ()) :
    ∃ r, s.roster.lock = .ok r := by
  unfold saveParameters at h
  split at h
  · cases h
  · split at h
    · cases h
    · exact ⟨_, ‹_›⟩

/-! ## Runs -/

/-- In whatever state a run is, with a store that does not fail: after a mode's whole section was saved, a start
    from the store and a start with that section, the other sections not being set, answer the same through
    any handle for the mode's control, and leave the same modes and handles, the same platform, with
    the same calls made to it, the same lights, with the same updates, and the same notices. If the mode is
    disconnected, what they answer is whether the section is good for a connection, and if it is, how the
    start of the interface ends. -/
theorem reach_stored_start {env : Env σ} {store : τ} (hS : M.store.Keeps contents) (hU : M.store.Unfailing working)
    (hs : M.Reach (fun _ _ => True) (M.initial env store) s) (hw : working s.store) {h : Handle} {mode : Mode}
    (hh : s.roster.Controls mode h) {p : Parameters}
    (hp : (M.saveParameters (sectionOf mode).mask p s).1 = .ok ()) :
    let q := (Section.ofParameters p (sectionOf mode)).toParameters
    let s' := (M.saveParameters (sectionOf mode).mask p s).2
    (M.start h .storage s').1 = (M.start h (.given q) s').1 ∧
    (M.start h .storage s').2.roster = (M.start h (.given q) s').2.roster ∧
    (M.start h .storage s').2.env = (M.start h (.given q) s').2.env ∧
    (M.start h .storage s').2.notices = (M.start h (.given q) s').2.notices ∧
    ∀ r, s.roster.modes = some r → (r.get mode).status = .disconnected →
      (M.start h .storage s').1 =
        (checkedKind mode q).bind fun kind => (Link.start M.platform kind q (r.get mode).cleared s.env).1 := by
  intro q s'
  have hframe := saveParameters_frame (M := M) (sectionOf mode).mask p s
  have hroster : s'.roster = s.roster := (congrArg State.roster hframe).trans rfl
  have henv : s'.env = s.env := (congrArg State.env hframe).trans rfl
  have hw' : working s'.store := working_saveParameters hU hw _ p
  obtain ⟨-, hwritten⟩ := saveParameters_ok hS hp
  have hlabelled := hs.labelled rfl
  have hsame : unstored (M.start h .storage s') = unstored (M.start h (.given q) s') := by
    refine unstored_start fun mode' r roster hm hr => ?_
    rw [hroster] at hm hr
    obtain rfl : mode' = mode := Except.ok.inj (hm.symm.trans hh.modeOf)
    obtain ⟨store, hfound⟩ := storedParameters_saved (s := { s' with roster }) hS hU.answering hw' hwritten
    exact ⟨store, by simp only [resolve, hlabelled r hr mode', hfound]; rfl⟩
  simp only [unstored, Prod.mk.injEq] at hsame
  obtain ⟨hresult, hroster', henv', hnotices⟩ := hsame
  refine ⟨hresult, hroster', henv', hnotices, fun r hr hd => ?_⟩
  obtain ⟨r', hlock⟩ := lock_of_saveParameters hp
  obtain rfl : r' = r := Option.some.inj ((Roster.lock_eq_ok hlock).2.symm.trans hr)
  rw [hresult, start_given (hroster ▸ hs.commanded.1) (hlabelled r' hr) (hroster ▸ hlock) (hroster ▸ hh) hd, henv]

end ControlPlane

namespace Camera

open Simulation ControlPlane

/-- Both networks of the camera. -/
def networks : Parameters := { home with accessPoint := hotspot.accessPoint }

/-- The normal mode has left the network. -/
def departed : State (Recorded Board) Shelf := plane.recorded.run (join ++ [.stop normal]) recording

theorem departed_stored_start :
    let q := (Section.ofParameters networks (sectionOf .normal)).toParameters
    let s' := (plane.recorded.saveParameters (sectionOf .normal).mask networks departed).2
    departed.roster.Controls .normal normal ∧
    (plane.recorded.saveParameters (sectionOf .normal).mask networks departed).1 = .ok () ∧ q = home ∧
    (plane.recorded.start normal .storage s').1 = .ok () ∧
    (plane.recorded.start normal .storage s').1 = (plane.recorded.start normal (.given q) s').1 ∧
    (plane.recorded.start normal .storage s').2.roster = (plane.recorded.start normal (.given q) s').2.roster ∧
    (plane.recorded.start normal .storage s').2.env = (plane.recorded.start normal (.given q) s').2.env ∧
    (plane.recorded.start normal .storage s').2.notices = (plane.recorded.start normal (.given q) s').2.notices ∧
    ∀ r, departed.roster.modes = some r → (r.get .normal).status = .disconnected →
      (plane.recorded.start normal .storage s').1 =
        (checkedKind .normal q).bind fun kind =>
          (Link.start plane.recorded.platform kind q (r.get .normal).cleared departed.env).1 := by
  have hS : plane.recorded.store.Keeps _ := keeps_faultyStore VolatileStore.keeps
  have hU : plane.recorded.store.Unfailing _ := unfailing_faultyStore VolatileStore.unfailing
  have hstore : departed.store = { inner := {} } := by decide +kernel
  have hw : (∀ k, departed.store.queue k = []) ∧ departed.store.inner.readOnly = false := by
    rw [hstore]
    exact ⟨fun _ => rfl, rfl⟩
  have hlive : departed.roster.live? normal = some { mode := .normal, access := .control } := by decide +kernel
  have hh : departed.roster.Controls .normal normal := ⟨_, hlive, rfl, rfl⟩
  have hp : (plane.recorded.saveParameters (sectionOf .normal).mask networks departed).1 = .ok () := by
    decide +kernel
  exact ⟨hh, hp, rfl, by decide +kernel, reach_stored_start hS hU (reach_any _ recording) hw hh hp⟩

end Camera

end Connectivity
