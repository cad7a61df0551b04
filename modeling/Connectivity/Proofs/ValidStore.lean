/-
  Connectivity.Proofs.ValidStore — a store that only the control plane writes to holds valid parameters.
  - `Sole`: a run in which nobody else writes to the store, whatever fails in it.
  - `contents_step`: no move but a save changes what is stored. `Legacy.run_keeps`: an import does nothing to the
    control plane but save.
  - `Contents.Valid`: each value is good for its field by itself. A save that ends half way leaves a store so,
    since the fields that were written are good whatever the others are (`valid_saveParameters`).
  - `sole_loaded`: so what is loaded is accepted when it is saved again, and that changes nothing for later loads.
-/

import Connectivity.Proofs.Imports

namespace Connectivity

/-! ## Contents -/

namespace Contents

variable {c : Contents} {p : Parameters}

/-- Every value that is there is one that may be kept for its field. -/
def Valid (c : Contents) : Prop := ∀ f v, c (Field.key f) = some v → f.admits v = true

theorem Valid.typed (hc : c.Valid) : c.Typed := fun f v hv => Field.ofType_of_admits (hc f v hv)

theorem Valid.valueOf (hc : c.Valid) (f : Field) : f.admits (c.valueOf f) = true := by
  unfold Contents.valueOf
  cases hv : c f.key with
  | none => exact f.admits_unset
  | some v => exact hc f v hv

theorem Valid.written (hc : c.Valid) {fs : List Field} (h : ∀ f ∈ fs, f.accepts .save p = true) :
    (c.written (rowsOf p fs)).Valid := by
  intro f v hv
  rw [written_key] at hv
  split at hv
  · rename_i hf
    cases hv
    rw [f.admits_read]
    exact h f hf
  · exact hc f v hv

/-- What is in a valid store is accepted. -/
theorem Valid.accepts (hc : c.Valid) {f : Field} (h : f.read p = c.valueOf f) : f.accepts .save p = true := by
  rw [← f.admits_read, h]
  exact hc.valueOf f

/-- Writing what is there changes nothing, though keys that were absent may now be present. -/
theorem valueOf_rewritten {fs : List Field} (h : ∀ f ∈ fs, f.read p = c.valueOf f) :
    (c.written (rowsOf p fs)).valueOf = c.valueOf := by
  funext f
  rw [valueOf_written]
  split
  · rename_i hf
    exact h f hf
  · rfl

end Contents

namespace ControlPlane

variable {σ τ α μ : Type} {M : ControlPlane σ τ} {s s₀ : State σ τ} {contents : τ → Contents} {reading : τ → Prop}

/-! ## Moves that do not write -/

section Frame

theorem store_tell (s : State σ τ) (mode : Mode) : (s.tell mode).store = s.store := by
  unfold State.tell
  split <;> rfl

theorem store_react (name : String) (event : Event) (mode : Mode) (s : State σ τ) :
    (M.react name event mode s).store = s.store := by
  unfold react
  (repeat' split)
  · rfl
  · exact store_tell _ mode
  · rfl

theorem store_giveBack (name : String) (mode : Mode) (s : State σ τ) : (M.giveBack name mode s).store = s.store := by
  unfold giveBack
  (repeat' split) <;> rfl

theorem store_receive (name : String) (event : Event) (s : State σ τ) : (M.receive name event s).store = s.store := by
  by_cases hpre : event = .ifDownPre
  · subst hpre
    unfold receive
    rw [store_letThrough, store_giveBack, store_giveBack]
  · rw [receive_eq_react hpre]
    exact (store_react name event .accessPoint _).trans (store_react name event .normal s)

theorem store_bringUp (m : ModeState) (kind : InterfaceKind) (p : Parameters) (s : State σ τ) :
    (M.bringUp m kind p s).2.store = s.store := by
  unfold bringUp
  split
  · rfl
  · simp only
    exact store_tell _ _

theorem store_announceStop (name : String) (s : State σ τ) : (M.announceStop name s).store = s.store := by
  unfold announceStop
  split
  · exact store_receive name .ifDownPre _
  · rfl

theorem store_announced (m : ModeState) (s : State σ τ) : (M.announced m s).store = s.store := by
  unfold announced
  split
  · exact store_announceStop _ s
  · rfl

theorem store_takeDown (mode : Mode) (s : State σ τ) : (M.takeDown mode s).2.store = s.store := by
  unfold takeDown
  split
  · rfl
  · exact store_tell _ mode

end Frame

theorem contents_withMode {h : Handle} {isControl : Bool} {run : ModeState → Operation σ τ α}
    (hrun : ∀ m (s' : State σ τ), contents (run m s').2.store = contents s'.store) (s : State σ τ) :
    contents (withMode h isControl run s).2.store = contents s.store := by
  unfold withMode withHandle
  split
  · rfl
  · simp only
    split
    · rfl
    · exact hrun _ _

theorem contents_holds (hS : M.store.Keeps contents) (m : Mask) (t : τ) :
    contents (holds M.store m t).2 = contents t := by
  unfold holds
  split
  · rfl
  · rename_i f _
    have hkept := hS.loading f.key t
    split <;> rename_i hx <;> rw [hx] at hkept <;> exact hkept

theorem contents_storedParameters (hS : M.store.Keeps contents) (mode : Mode) (s : State σ τ) :
    contents (M.storedParameters mode s).2.store = contents s.store := by
  have hprobed := contents_holds (M := M) hS (.single (probe mode)) s.store
  unfold storedParameters
  split <;> rename_i hx <;> rw [hx] at hprobed
  · exact hprobed
  · exact hprobed
  · exact (loadAll_cases hS _ 0 {} _).1.trans hprobed

theorem contents_resolve (hS : M.store.Keeps contents) (m : ModeState) (source : ParameterSource) (s : State σ τ) :
    contents (M.resolve m source s).2.store = contents s.store := by
  have hstored := contents_storedParameters (M := M) hS m.mode s
  unfold resolve
  cases source with
  | given p => rfl
  | lastSaved =>
    simp only
    split <;> rfl
  | storage =>
    simp only
    split <;> rename_i hx <;> rw [hx] at hstored <;> exact hstored

theorem contents_start (hS : M.store.Keeps contents) (h : Handle) (source : ParameterSource) (s : State σ τ) :
    contents (M.start h source s).2.store = contents s.store := by
  refine contents_withMode (fun m s' => ?_) s
  split
  · rfl
  · have hresolved := contents_resolve hS m source s'
    split <;> rename_i hx <;> rw [hx] at hresolved
    · exact hresolved
    · split
      · exact hresolved
      · exact (congrArg contents (store_bringUp m _ _ _)).trans hresolved

theorem contents_stop (h : Handle) (s : State σ τ) : contents (M.stop h s).2.store = contents s.store := by
  refine contents_withMode (fun m s' => congrArg contents ?_) s
  split
  · rw [store_takeDown, store_prepareStop]
    exact store_announced m s'
  · rfl

theorem contents_loadParameters (hS : M.store.Keeps contents) (m : Mask) (q : Parameters) (s : State σ τ) :
    contents (M.loadParameters m q s).2.2.store = contents s.store := by
  rcases loadParameters_touches (M := M) m q s with h | h <;> rw [h]
  exact (loadAll_cases hS m.fields 0 q s.store).1

theorem reading_loadParameters (hS : M.store.Keeps contents) (hA : M.store.Answering reading)
    (hreading : reading s.store) (hc : (contents s.store).Typed) (m : Mask) (q : Parameters) :
    reading (M.loadParameters m q s).2.2.store := by
  rcases loadParameters_touches (M := M) m q s with h | h <;> rw [h]
  · exact hreading
  · exact (hA.loadAll hS m.fields 0 q hreading fun f _ => hc.valueOf f).2

def Move.mayWrite : Move σ τ → Bool
  | .save .. => true
  | .outside .. => true
  | _ => false

/-- What is neither a save nor something outside changes nothing that is stored. -/
theorem contents_step (hS : M.store.Keeps contents) {mv : Move σ τ} (hmv : mv.mayWrite = false) (s : State σ τ) :
    contents (M.step mv s).store = contents s.store := by
  cases mv with
  | setUp =>
    show contents (M.setUp s).2.store = contents s.store
    unfold setUp
    (repeat' split) <;> rfl
  | dissolve =>
    show contents (M.dissolve s).2.store = contents s.store
    unfold dissolve
    split <;> rfl
  | issue => rfl
  | revoke h =>
    show contents (revokeHandle h s).2.store = contents s.store
    unfold revokeHandle
    split <;> rfl
  | start h source => exact contents_start hS h source s
  | stop h => exact contents_stop h s
  | flags h => exact contents_withMode (fun _ _ => rfl) s
  | snapshot h => exact contents_withMode (fun _ _ => rfl) s
  | rssi h =>
    refine contents_withMode (fun m s' => ?_) s
    (repeat' split) <;> rfl
  | netstat h =>
    refine contents_withMode (fun m s' => ?_) s
    (repeat' split) <;> rfl
  | listen h =>
    refine contents_withMode (fun m s' => ?_) s
    split <;> rfl
  | unlisten h =>
    refine contents_withMode (fun m s' => ?_) s
    split <;> rfl
  | save m p => cases hmv
  | load m q => exact contents_loadParameters hS m q s
  | event name event => exact congrArg contents (store_receive name event s)
  | outside platform store now => cases hmv
  | lock => rfl

/-! ## Saves -/

/-- However a save ends, it has written fields that were accepted. -/
theorem contents_saveParameters (hS : M.store.Keeps contents) (m : Mask) (p : Parameters) (s : State σ τ) :
    ∃ fs : List Field, (∀ f ∈ fs, m.has f = true ∧ f.accepts .save p = true) ∧
      contents (M.saveParameters m p s).2.store = (contents s.store).written (rowsOf p fs) := by
  cases hlock : s.roster.lock with
  | error err =>
    have hsave : (M.saveParameters m p s).2 = s := by
      unfold saveParameters
      rw [hlock]
      split <;> rfl
    exact ⟨[], nofun, by rw [hsave]; rfl⟩
  | ok r =>
    have haccepts (hvalid : validate m p .save = .ok ()) (f : Field) (hf : f ∈ m.fields) :
        m.has f = true ∧ f.accepts .save p = true :=
      ⟨(m.mem_fields f).mp hf, validate_ok_iff.mp hvalid f ((m.mem_fields f).mp hf)⟩
    rcases saveParameters_cases hS hlock m p with
      ⟨e, hsave, -⟩ | ⟨t, hsave, hvalid, hc⟩ | ⟨done, f, rest, t, err, t', hfields, hvalid, -, -, hsave, hc⟩ <;>
      rw [hsave]
    · exact ⟨[], nofun, rfl⟩
    · exact ⟨m.fields, haccepts hvalid, hc⟩
    · refine ⟨done, fun g hg => haccepts hvalid g ?_, hc⟩
      rw [hfields]
      exact List.mem_append_left _ hg

theorem valid_saveParameters (hS : M.store.Keeps contents) (hc : (contents s.store).Valid) (m : Mask) (p : Parameters) :
    (contents (M.saveParameters m p s).2.store).Valid := by
  obtain ⟨fs, hfs, hwritten⟩ := contents_saveParameters hS m p s
  rw [hwritten]
  exact hc.written fun f hf => (hfs f hf).2

end ControlPlane

namespace Legacy

open ControlPlane

variable {σ τ μ : Type} {M : ControlPlane σ τ} {L : LegacySource μ} {P : State σ τ → Prop}

theorem importItem_keeps (hP : ∀ m p s, P s → P (M.saveParameters m p s).2) {s : State σ τ} (hs : P s) (i : LegacyItem)
    (x : μ) : P (importItem M L i s x).2.1 := by
  unfold importItem
  split
  · exact hs
  · split
    · exact hs
    · exact hP _ _ _ hs

theorem importItems_keeps (hP : ∀ m p s, P s → P (M.saveParameters m p s).2) (items : List LegacyItem) {s : State σ τ}
    (hs : P s) (x : μ) : P (importItems M L items s x).1 := by
  induction items generalizing s x with
  | nil => exact hs
  | cons i items ih => exact ih (importItem_keeps hP hs i x) _

/-- What every save keeps, an import keeps, whatever its source answers. -/
theorem run_keeps (hP : ∀ m p s, P s → P (M.saveParameters m p s).2) {s : State σ τ} (hs : P s) (x : μ) :
    P (Legacy.run M L s x).2.1 := by
  have hsaved {m : Mask} {p : Parameters} {answer : Except Error Unit} {s' : State σ τ}
      (hx : M.saveParameters m p s = (answer, s')) : P s' := by
    have hkept := hP m p s hs
    rw [hx] at hkept
    exact hkept
  have hall (x : μ) : P (importAll M L s x).2.1 := by
    unfold importAll
    split
    · exact hs
    · split
      · exact hs
      · split
        · exact hs
        · split <;> rename_i hx
          · exact hsaved hx
          · exact importItems_keeps hP _ (hsaved hx) _
  unfold Legacy.run
  split
  · split
    · exact hs
    · exact hall _
  · exact hs

end Legacy

namespace ControlPlane

variable {σ τ : Type} {M : ControlPlane σ τ} {s s₀ : State σ τ} {contents : τ → Contents} {reading : τ → Prop}

/-! ## Runs -/

variable (M contents) in
/-- A run in which nobody but the control plane writes to the store. From outside the store can be made to fail
    and to work again. -/
inductive Sole (s₀ : State σ τ) : State σ τ → Prop
  | refl : Sole s₀ s₀
  | move {s : State σ τ} (mv : Move σ τ) :
      Sole s₀ s →
      (∀ platform store now, mv = .outside platform store now → contents (store s.store) = contents s.store) →
      Sole s₀ (M.step mv s)
  | ofSection {s : State σ τ} (x : Section) : Sole s₀ s → Sole s₀ (M.saveSection x s).2
  | imports {s : State σ τ} {μ : Type} (L : LegacySource μ) (x : μ) : Sole s₀ s → Sole s₀ (Legacy.run M L s x).2.1

theorem Sole.valid (h : M.Sole contents s₀ s) (hS : M.store.Keeps contents) (hc : (contents s₀.store).Valid) :
    (contents s.store).Valid := by
  induction h with
  | refl => exact hc
  | @move s mv _ houtside ih =>
    cases mv with
    | save m p => exact valid_saveParameters hS ih m p
    | outside platform store now => exact (houtside platform store now rfl).symm ▸ ih
    | _ =>
      rw [contents_step hS rfl s]
      exact ih
  | ofSection x _ ih => exact valid_saveParameters hS ih x.name.mask x.toParameters
  | imports L x _ ih =>
    exact Legacy.run_keeps (P := fun s => (contents s.store).Valid)
      (fun m p _ hc => valid_saveParameters hS hc m p) ih x

/-- What is in a valid store can be saved again, and that changes no load. -/
theorem saved_again (hS : M.store.Keeps contents) (hA : M.store.Answering reading) (hc : (contents s.store).Valid)
    {r : Modes} (hlock : s.roster.lock = .ok r) (hreading : reading s.store) {m : Mask} (hm : m.isEmpty = false)
    {p : Parameters} (hp : ∀ f, m.has f = true → f.read p = (contents s.store).valueOf f) :
    validate m p .save = .ok () ∧
      ((M.saveParameters m p s).1 = .ok () ∨ ∃ err, (M.saveParameters m p s).1 = .error (.storage err)) ∧
      (∀ working, M.store.Unfailing working → working s.store → (M.saveParameters m p s).1 = .ok ()) ∧
      (reading (M.saveParameters m p s).2.store → ∀ m' q',
        (M.loadParameters m' q' (M.saveParameters m p s).2).1 = (M.loadParameters m' q' s).1 ∧
          (M.loadParameters m' q' (M.saveParameters m p s).2).2.1 = (M.loadParameters m' q' s).2.1) := by
  have hvalid : validate m p .save = .ok () := validate_ok_iff.mpr fun f hf => hc.accepts (hp f hf)
  refine ⟨hvalid, ?_, fun working hU hw => ?_, fun hreading' m' q' => ?_⟩
  · rcases saveParameters_cases hS hlock m p with
      ⟨_, -, -, hrefused⟩ | ⟨t, hsave, -⟩ | ⟨_, _, _, _, err, t, -, -, -, -, hsave, -⟩
    · exact absurd hvalid (hrefused hm)
    · exact .inl (congrArg Prod.fst hsave)
    · exact .inr ⟨err, congrArg Prod.fst hsave⟩
  · obtain ⟨t, hsave, -⟩ := saveParameters_written hS hU hw hlock hm hvalid
    exact congrArg Prod.fst hsave
  · obtain ⟨fs, hfs, hwritten⟩ := contents_saveParameters hS m p s
    have hsame : (contents (M.saveParameters m p s).2.store).valueOf = (contents s.store).valueOf := by
      rw [hwritten]
      exact Contents.valueOf_rewritten fun f hf => hp f (hfs f hf).1
    have hlock' : (M.saveParameters m p s).2.roster.lock = .ok r :=
      (congrArg State.roster (saveParameters_frame m p s)).symm ▸ hlock
    have hc' := valid_saveParameters hS hc m p
    by_cases hm' : m'.isEmpty = true
    · simp [loadParameters, hm']
    · have hm' := eq_false_of_ne_true hm'
      obtain ⟨p₁, s₁, hloaded₁, hread₁⟩ := loadParameters_ok hS hA hreading' hlock' hc'.typed hm' q'
      obtain ⟨p₂, s₂, hloaded₂, hread₂⟩ := loadParameters_ok hS hA hreading hlock hc.typed hm' q'
      have heq : p₁ = p₂ := Parameters.ext_read fun f => by rw [hread₁, hread₂, hsame]
      rw [hloaded₁, hloaded₂]
      exact ⟨rfl, heq⟩

/-- From a store that was empty and that nobody else wrote to, as long as it can be read: whatever is selected is
    loaded and is accepted for keeping. Saving it again is refused by nothing but the store, and succeeds if the
    store does not fail; and whether it succeeds or ends half way, a load from then on finds what it would have
    found without it. -/
theorem sole_loaded (hS : M.store.Keeps contents) (hA : M.store.Answering reading)
    (hempty : contents s₀.store = fun _ => none) (h : M.Sole contents s₀ s) {r : Modes} (hlock : s.roster.lock = .ok r)
    (hreading : reading s.store) {m : Mask} (hm : m.isEmpty = false) (q : Parameters) :
    ∃ p s', M.loadParameters m q s = (.ok (), p, s') ∧ validate m p .save = .ok () ∧
      ((M.saveParameters m p s').1 = .ok () ∨ ∃ err, (M.saveParameters m p s').1 = .error (.storage err)) ∧
      (∀ working, M.store.Unfailing working → working s'.store → (M.saveParameters m p s').1 = .ok ()) ∧
      (reading (M.saveParameters m p s').2.store → ∀ m' q',
        (M.loadParameters m' q' (M.saveParameters m p s').2).1 = (M.loadParameters m' q' s').1 ∧
          (M.loadParameters m' q' (M.saveParameters m p s').2).2.1 = (M.loadParameters m' q' s').2.1) := by
  have hc : (contents s.store).Valid := by
    refine h.valid hS fun f v hv => ?_
    rw [hempty] at hv
    cases hv
  obtain ⟨p, s', hloaded, hread⟩ := loadParameters_ok hS hA hreading hlock hc.typed hm q
  obtain rfl : (M.loadParameters m q s).2.2 = s' := congrArg (·.2.2) hloaded
  have hkept := contents_loadParameters hS m q s
  refine ⟨p, _, hloaded, saved_again hS hA (hkept ▸ hc) (r := r) ?_ ?_ hm fun f hf => ?_⟩
  · exact (congrArg State.roster (loadParameters_frame m q s)).symm ▸ hlock
  · exact reading_loadParameters hS hA hreading hc.typed m q
  · rw [hread, if_pos hf, hkept]

end ControlPlane

namespace Camera

open Simulation ControlPlane

/-- A camera with an empty store that will not take a password the first time. -/
def unused : PlaneState :=
  { off with
    store := { inner := {}, faults := Table.empty.insert (.save "normal.sta_password") [⟨.backend "busy", 0⟩] } }

/-- A save that ended half way, and an import after it. -/
def patched : PlaneState :=
  (Legacy.run plane LegacySettings.source (plane.saveParameters outward home (plane.setUp unused).2).2 older).2.1

theorem patched_loaded :
    (plane.saveParameters outward home (plane.setUp unused).2).1 = .error (.storage (.backend "busy")) ∧
    patched.store.inner.entries.find? "normal.sta_ssid" = some (.text "home") ∧
    patched.store.inner.entries.find? "proxy.port" = some (.number 8080) ∧
    ∃ p s', plane.loadParameters outward {} patched = (.ok (), p, s') ∧ validate outward p .save = .ok () ∧
      ((plane.saveParameters outward p s').1 = .ok () ∨
        ∃ err, (plane.saveParameters outward p s').1 = .error (.storage err)) ∧
      (∀ working, plane.store.Unfailing working → working s'.store → (plane.saveParameters outward p s').1 = .ok ()) ∧
      ((∀ key, (plane.saveParameters outward p s').2.store.queue (.load key) = []) ∧ True → ∀ m' q',
        (plane.loadParameters m' q' (plane.saveParameters outward p s').2).1 = (plane.loadParameters m' q' s').1 ∧
          (plane.loadParameters m' q' (plane.saveParameters outward p s').2).2.1 =
            (plane.loadParameters m' q' s').2.1) := by
  have hS : plane.store.Keeps fun t => t.inner.entries.find? := keeps_faultyStore VolatileStore.keeps
  have hA : plane.store.Answering _ := answering_faultyStore VolatileStore.answering
  have hrun : plane.Sole (fun t => t.inner.entries.find?) unused patched :=
    ((Sole.refl.move .setUp nofun).move (.save outward home) nofun).imports LegacySettings.source older
  obtain ⟨r, hlock⟩ := Roster.exists_lock (r := patched.roster) (by decide +kernel)
  have hfaults : patched.store.faults = Table.empty.insert (.save "normal.sta_password") [] := by decide +kernel
  have hreading : (∀ key, patched.store.queue (.load key) = []) ∧ True := by
    refine ⟨fun key => ?_, trivial⟩
    simp [Faulty.queue, hfaults, Table.find?_insert]
  exact ⟨by decide +kernel, by decide +kernel, by decide +kernel,
    sole_loaded hS hA rfl hrun hlock hreading (by decide +kernel) {}⟩

end Camera

end Connectivity
