/-
  Connectivity.Proofs.FailedStarts — what a start that fails leaves as it was.
  - `Error.ofInterface`: a start that gets to the interface fails only by the platform's own error, or because
    there is no such interface, for what was checked sets an interface up.
  - `Roster.leave_entered`: a guard that is given back leaves the whole roster as it was.
  - `start_error_cases`: so a start that is refused before it gets there leaves all as it was; one that gets
    there clears its mode and leaves the rest. `reach_failed_start` says so of every run.
-/

import Connectivity.Proofs.Resumption
import Connectivity.Proofs.Setups
import Connectivity.Proofs.ValidStore

namespace Connectivity

/-! ## Errors -/

/-- The platform's own error, or that a mode has no interface of a kind. -/
def Error.ofInterface : Error → Bool
  | .platform _ => true
  | .noInterfaceOfKind _ _ => true
  | _ => false

section
variable {τ : Type} {S : Store τ} {err : Error}

theorem ofInterface_of_holds {m : Mask} {t : τ} (h : (holds S m t).1 = .error err) : err.ofInterface = false := by
  unfold holds at h
  split at h
  · cases h
  · split at h <;> cases h
    rfl

theorem ofInterface_of_loadAll {fs : List Field} {found : Nat} {p : Parameters} {t : τ}
    (h : (loadAll S fs found p t).1.result = .error err) : err.ofInterface = false := by
  induction fs generalizing found p t with
  | nil => cases h
  | cons f fs ih =>
    unfold loadAll at h
    split at h
    · cases h
      rfl
    · split at h
      · cases h
        rfl
      · exact ih h

end

namespace Link

variable {σ : Type} {P : Platform σ} {m m' : ModeState} {e e' : Env σ} {kind : InterfaceKind} {p : Parameters}

theorem ofInterface_of_start {err : Error} {setup : InterfaceSetup}
    (hsetup : interfaceSetup m.mode kind p = .ok setup) (h : start P kind p m e = (.error err, m', e')) :
    err.ofInterface = true := by
  unfold start at h
  split at h
  · cases h
    rfl
  · rw [hsetup] at h
    simp only at h
    split at h <;> cases h
    rfl

end Link

/-! ## Guards -/

namespace Roster

variable {r r' : Roster} {h : Handle} {isControl : Bool} {g : Guard}

theorem locked_leave (g : Guard) (r : Roster) : (r.leave g).locked = r.locked := by
  unfold leave
  split
  · rename_i hx
    obtain ⟨_, _, -, -, rfl⟩ := exit_ok hx
    rfl
  · rfl

theorem contended_leave (g : Guard) (r : Roster) : (r.leave g).contended = r.contended := by
  unfold leave
  split
  · rename_i hx
    obtain ⟨_, _, -, -, rfl⟩ := exit_ok hx
    rfl
  · rfl

/-- A guard that is given back leaves the roster as it was before it was taken, but for what became of the
    modes meanwhile. -/
theorem leave_entered (hx : r.enter h isControl = (.ok g, r'))
    (hfew : ∀ e, r.live? h = some e → e.count.toNat + 1 < 2 ^ 32) (modes : Option Modes) :
    ({ r' with modes } : Roster).leave g = { r with modes } := by
  have hslots := slots_leave hx hfew (show ({ r' with modes } : Roster).slots = r'.slots from rfl)
  have hmodes := modes_leave g { r' with modes }
  have hquota := (quota_leave g { r' with modes }).trans (show r'.quota = r.quota from quota_enter hx)
  have hlocked : (({ r' with modes } : Roster).leave g).locked = r.locked := by
    obtain ⟨_, _, -, -, -, -, rfl⟩ := enter_ok hx
    exact locked_leave g _
  have hcontended : (({ r' with modes } : Roster).leave g).contended = r.contended := by
    obtain ⟨_, _, -, -, -, -, rfl⟩ := enter_ok hx
    exact contended_leave g _
  generalize ({ r' with modes } : Roster).leave g = left at *
  cases left
  simp_all

theorem leave_enter (hx : r.enter h isControl = (.ok g, r'))
    (hfew : ∀ e, r.live? h = some e → e.count.toNat + 1 < 2 ^ 32) : r'.leave g = r := by
  have hmodes := modes_enter h isControl r
  rw [hx] at hmodes
  have hsame : ({ r' with modes := r.modes } : Roster) = r' := by rw [← hmodes]
  exact hsame ▸ leave_entered hx hfew r.modes

end Roster

/-- So few guards are held that a handle can count one more. -/
theorem Accounted.count_lt {r : Roster} {guards : List Guard} (ha : Accounted r guards)
    (hfew : guards.length + 1 < 2 ^ 32) {h : Handle} {e : Entry} (he : r.live? h = some e) :
    e.count.toNat + 1 < 2 ^ 32 := by
  have hle : guards.countP (Guard.on h.index) ≤ guards.length := List.countP_le_length
  rw [ha.count _ e (Roster.at?_of_live? he)]
  omega

namespace ControlPlane

open Roster

variable {σ τ α : Type} {M : ControlPlane σ τ} {s : State σ τ} {guards : List Guard} {h : Handle}
  {isControl : Bool} {run : ModeState → Operation σ τ α}

theorem ofInterface_of_enter {err : Error} {r' : Roster} (hx : s.roster.enter h isControl = (.error err, r')) :
    err.ofInterface = false := by
  simp only [enter] at hx
  (repeat' split at hx) <;> cases hx
  all_goals rfl

theorem ofInterface_of_lock {err : Error} {r : Roster} (hx : r.lock = .error err) : err.ofInterface = false := by
  simp only [lock] at hx
  (repeat' split at hx) <;> cases hx
  all_goals rfl

/-- A call is refused and changes nothing; or it runs, and where it changes the modes alone, the table of
    handles is afterwards as it was. -/
theorem withMode_exact (h : Handle) (isControl : Bool) (run : ModeState → Operation σ τ α)
    (ha : Accounted s.roster guards) (hfew : guards.length + 1 < 2 ^ 32) :
    (∃ err, err.ofInterface = false ∧ withMode h isControl run s = (.error err, s)) ∨
    ∃ mode r s₁, s.roster.modeOf h = .ok mode ∧ s.roster.modes = some r ∧ s₁.roster.modes = some r ∧
      s₁.env = s.env ∧ (withMode h isControl run s).1 = (run (r.get mode) s₁).1 ∧
      (withMode h isControl run s).2.env = (run (r.get mode) s₁).2.env ∧
      ∀ modes, (run (r.get mode) s₁).2.roster = { s₁.roster with modes } →
        (withMode h isControl run s).2.roster = { s.roster with modes } := by
  have hcount (e : Entry) : s.roster.live? h = some e → e.count.toNat + 1 < 2 ^ 32 := ha.count_lt hfew
  have hmodes := modes_enter h isControl s.roster
  unfold withMode withHandle
  cases hx : s.roster.enter h isControl with
  | mk answer roster =>
    rw [hx] at hmodes
    cases answer with
    | error err => exact .inl ⟨err, ofInterface_of_enter hx, rfl⟩
    | ok g =>
      cases hl : roster.lock with
      | error err =>
        refine .inl ⟨err, ofInterface_of_lock hl, ?_⟩
        simp only [hl, leave_enter hx hcount]
      | ok r =>
        refine .inr ⟨g.mode, r, { s with roster }, modeOf_enter hx, hmodes ▸ (lock_eq_ok hl).2,
          (lock_eq_ok hl).2, rfl, ?_, ?_, fun modes hrun => ?_⟩
        · simp only [hl]
        · simp only [hl]
        · simp only [hl, hrun]
          exact leave_entered hx hcount modes

/-! ## Starts -/

theorem ofInterface_of_storedParameters {mode : Mode} {err : Error}
    (h : (M.storedParameters mode s).1 = .error err) : err.ofInterface = false := by
  unfold storedParameters at h
  split at h
  · rename_i hx
    cases h
    exact ofInterface_of_holds (congrArg Prod.fst hx)
  · cases h
    rfl
  · rename_i store _
    cases hx : (loadFields M.store (sectionOf mode).mask {} store).1.result with
    | error err' =>
      simp only [hx] at h
      cases h
      exact ofInterface_of_loadAll hx
    | ok n =>
      simp only [hx] at h
      cases h

theorem resolve_frame (m : ModeState) (source : ParameterSource) (s : State σ τ) :
    (M.resolve m source s).2.roster = s.roster ∧
      (M.resolve m source s).2.env.platform = s.env.platform := by
  unfold resolve
  cases source with
  | given p => exact ⟨rfl, rfl⟩
  | lastSaved =>
    simp only
    split <;> exact ⟨rfl, rfl⟩
  | storage =>
    obtain ⟨hr, he⟩ := storedParameters_keeps (M := M) m.mode s
    simp only
    split <;> rename_i hx <;> rw [hx] at hr he
    · exact ⟨hr, by rw [← he]; rfl⟩
    · exact ⟨hr, by rw [← he]⟩

theorem ofInterface_of_resolve {m : ModeState} {source : ParameterSource} {err : Error}
    (h : (M.resolve m source s).1 = .error err) : err.ofInterface = false := by
  unfold resolve at h
  cases source with
  | given p => cases h
  | lastSaved =>
    simp only at h
    split at h <;> cases h
    rfl
  | storage =>
    simp only at h
    split at h
    · cases h
      rfl
    · rename_i hx
      exact ofInterface_of_storedParameters ((congrArg Prod.fst hx).trans h)

theorem ofInterface_of_checkedKind {mode : Mode} {p : Parameters} {err : Error}
    (h : checkedKind mode p = .error err) : err.ofInterface = false := by
  simp only [checkedKind] at h
  split at h
  · cases h
    rfl
  · rename_i kind _
    cases hv : validate (.needed mode kind) p .connect with
    | error err' =>
      rw [hv] at h
      cases h
      obtain ⟨f, rfl⟩ := validate_error hv
      rfl
    | ok =>
      rw [hv] at h
      cases h

/-- With parameters that were checked, what fails is the interface; the mode is cleared. -/
theorem bringUp_error {m : ModeState} {kind : InterfaceKind} {p : Parameters} {err : Error}
    (hk : checkedKind m.mode p = .ok kind) (h : (M.bringUp m kind p s).1 = .error err) :
    err.ofInterface = true ∧ (M.bringUp m kind p s).2.roster = s.roster.setMode m.mode m.cleared := by
  obtain ⟨setup, hsetup⟩ := interfaceSetup_of_valid (validate_of_checkedKind hk)
  unfold bringUp at h ⊢
  split at h <;> rename_i hx
  · cases h
    obtain rfl := Link.start_error _ hx
    exact ⟨Link.ofInterface_of_start (m := m.cleared) hsetup hx, rfl⟩
  · cases h

/-- A start that fails got as far as the interface, or left all as it was. -/
theorem start_error_cases (ha : Accounted s.roster guards) (hfew : guards.length + 1 < 2 ^ 32)
    (hl : ∀ r, s.roster.modes = some r → r.Labelled) {source : ParameterSource} {err : Error}
    (he : (M.start h source s).1 = .error err) :
    err.ofInterface = false ∧ (M.start h source s).2.roster = s.roster ∧
      (M.start h source s).2.env.platform = s.env.platform ∨
    err.ofInterface = true ∧ ∃ mode r, s.roster.modeOf h = .ok mode ∧ s.roster.modes = some r ∧
      (r.get mode).status = .disconnected ∧
      (M.start h source s).2.roster =
        { s.roster with modes := some (r.set mode (r.get mode).cleared) } := by
  rcases withMode_exact h true _ ha hfew with
    ⟨err', herr, hx⟩ | ⟨mode, r, s₁, hm, hr, hr₁, henv, hres, henv', hroster⟩
  · have hx : M.start h source s = (.error err', s) := hx
    rw [hx] at he ⊢
    cases he
    exact .inl ⟨herr, rfl, rfl⟩
  · have hres : (M.start h source s).1 = _ := hres
    have henv' : (M.start h source s).2.env = _ := henv'
    have hroster : ∀ modes, _ → (M.start h source s).2.roster = _ := hroster
    rw [hres] at he
    rw [henv']
    -- Where nothing becomes of the modes, nothing becomes of the roster.
    have hsame {roster : Roster} (hx : roster = s₁.roster) : roster = { s₁.roster with modes := some r } := by
      rw [hx, ← hr₁]
    have hback : ({ s.roster with modes := some r } : Roster) = s.roster := by rw [← hr]
    by_cases hd : (r.get mode).status = .disconnected
    · simp only [hd, ne_eq, not_true, if_false] at he hroster ⊢
      obtain ⟨hroster₂, hplatform₂⟩ := resolve_frame (M := M) (r.get mode) source s₁
      have herr₂ (err : Error) (hx : (M.resolve (r.get mode) source s₁).1 = .error err) :=
        ofInterface_of_resolve hx
      generalize M.resolve (r.get mode) source s₁ = x at he hroster hroster₂ hplatform₂ herr₂ ⊢
      obtain ⟨result, s₂⟩ := x
      cases result with
      | error err' =>
        obtain rfl : err' = err := Except.error.inj he
        refine .inl ⟨herr₂ err' rfl, (hroster _ (hsame hroster₂)).trans hback, ?_⟩
        rw [← henv]
        exact hplatform₂
      | ok p =>
        simp only at he hroster ⊢
        cases hk : checkedKind (r.get mode).mode p with
        | error err' =>
          simp only [hk] at he hroster ⊢
          obtain rfl : err' = err := Except.error.inj he
          refine .inl ⟨ofInterface_of_checkedKind hk, (hroster _ (hsame hroster₂)).trans hback, ?_⟩
          rw [← henv]
          exact hplatform₂
        | ok kind =>
          simp only [hk] at he hroster ⊢
          obtain ⟨herr, hcleared⟩ := bringUp_error hk he
          refine .inr ⟨herr, mode, r, hm, hr, hd, hroster _ ?_⟩
          rw [hcleared, hroster₂, hl r hr mode]
          simp [setMode, hr₁]
    · simp only [hd, ne_eq, not_false_eq_true, if_true] at he hroster ⊢
      cases he
      exact .inl ⟨rfl, (hroster _ (hsame rfl)).trans hback, by rw [henv]⟩

/-- Between moves a start of a mode that is not disconnected, through a handle for its control, is refused as
    such, unless another caller holds the lock. -/
theorem start_running {r : Modes} {mode : Mode} (ha : Accounted s.roster []) (hl : r.Labelled)
    (hr : s.roster.modes = some r) (hd : (r.get mode).status ≠ .disconnected) (hh : s.roster.Controls mode h)
    (source : ParameterSource) :
    s.roster.locked = true ∧ (M.start h source s).1 = .error .resourceLockTimeout ∨
      (M.start h source s).1 = .error (.alreadyRunning mode (r.get mode).status) := by
  rcases withMode_granted (hh.enter ha nofun) hr _ with hlocked | ⟨s', -, -, hres, -⟩
  · exact .inl hlocked
  · right
    have hres : (M.start h source s).1 = _ := hres
    rw [hres, if_pos hd, hl mode]

/-! ## Runs -/

/-- Whatever was called and whatever the platform answered, let a start fail, through whatever handle and from
    whatever source. What is stored is as before. If what failed is not the interface, no call was made to the
    platform, and the roster is as before, with both modes and all handles. If it is, the roster is as before
    but for the handle's mode; that is still disconnected, with the same parameters saved, the same callback
    and the same told to it. And a start of a mode that is not disconnected, through a handle for its
    control, is refused for that, unless another caller holds the lock. -/
theorem reach_failed_start {contents : τ → Contents} {env : Env (Recorded σ)} {store : τ}
    {s : State (Recorded σ) τ} (hS : M.store.Keeps contents)
    (hs : M.recorded.Reach (fun _ _ => True) (M.recorded.initial env store) s) (h : Handle)
    (source : ParameterSource) :
    let s' := (M.recorded.start h source s).2
    (∀ err, (M.recorded.start h source s).1 = .error err →
      contents s'.store = contents s.store ∧
      (err.ofInterface = false →
        s'.env.calls = s.env.calls ∧ s'.env.platform = s.env.platform ∧ s'.roster = s.roster) ∧
      (err.ofInterface = true →
        ∃ mode r m, s.roster.modeOf h = .ok mode ∧ s.roster.modes = some r ∧
          s'.roster = { s.roster with modes := some (r.set mode m) } ∧
          (r.get mode).status = .disconnected ∧ m.status = .disconnected ∧
          m.saved = (r.get mode).saved ∧ m.listening = (r.get mode).listening ∧ m.told = (r.get mode).told)) ∧
    ∀ mode r, s.roster.Controls mode h → s.roster.modes = some r → (r.get mode).status ≠ .disconnected →
      s.roster.locked = true ∧ (M.recorded.start h source s).1 = .error .resourceLockTimeout ∨
        (M.recorded.start h source s).1 = .error (.alreadyRunning mode (r.get mode).status) := by
  intro s'
  have ha := hs.commanded.1
  have hl := hs.labelled rfl
  refine ⟨fun err he => ⟨contents_start (M := M.recorded) hS h source s, fun herr => ?_, fun herr => ?_⟩,
    fun mode r hh hr hd => start_running ha (hl r hr) hr hd hh source⟩
  all_goals rcases start_error_cases ha (by decide) hl he with
    ⟨hother, hroster, hplatform⟩ | ⟨hown, mode, r, hm, hr, hd, hroster⟩
  · exact ⟨congrArg Recorded.calls hplatform, hplatform, hroster⟩
  · rw [hown] at herr
    cases herr
  · rw [hother] at herr
    cases herr
  · exact ⟨mode, r, (r.get mode).cleared, hm, hr, hroster, hd, hd, rfl, rfl, rfl⟩

end ControlPlane

namespace Camera

open Simulation ControlPlane

/-- The board's next start of the radio fails. -/
def stall (x : Recorded Board) : Recorded Board :=
  { x with
    inner := { x.inner with
      inner := { x.inner.inner with
        failures := x.inner.inner.failures.insert .start (.interface "start" "wlan0" "busy") } } }

/-- The normal mode has a lease over Ethernet; the access point was up, and the radio now fails. -/
def stalled : List (Move (Recorded Board) Shelf) :=
  bothUp ++ [.stop accessPoint, .outside stall id 0]

theorem stalled_failed_start :
    let contents : Shelf → Contents := fun t => t.inner.entries.find?
    let s := plane.recorded.run stalled recording
    (plane.recorded.start accessPoint .lastSaved s).1 = .error (.platform (.interface "start" "wlan0" "busy")) ∧
    (plane.recorded.start accessPoint (.given {}) s).1 = .error (.rejected (.text .apAddress) .connect) ∧
    (plane.recorded.start normal .storage s).1 = .error (.alreadyRunning .normal .connected) ∧
    ∀ h source,
      let s' := (plane.recorded.start h source s).2
      (∀ err, (plane.recorded.start h source s).1 = .error err →
        contents s'.store = contents s.store ∧
        (err.ofInterface = false →
          s'.env.calls = s.env.calls ∧ s'.env.platform = s.env.platform ∧ s'.roster = s.roster) ∧
        (err.ofInterface = true →
          ∃ mode r m, s.roster.modeOf h = .ok mode ∧ s.roster.modes = some r ∧
            s'.roster = { s.roster with modes := some (r.set mode m) } ∧
            (r.get mode).status = .disconnected ∧ m.status = .disconnected ∧
            m.saved = (r.get mode).saved ∧ m.listening = (r.get mode).listening ∧ m.told = (r.get mode).told)) ∧
      ∀ mode r, s.roster.Controls mode h → s.roster.modes = some r → (r.get mode).status ≠ .disconnected →
        s.roster.locked = true ∧ (plane.recorded.start h source s).1 = .error .resourceLockTimeout ∨
          (plane.recorded.start h source s).1 = .error (.alreadyRunning mode (r.get mode).status) := by
  intro contents s
  refine ⟨by decide +kernel, by decide +kernel, by decide +kernel, fun h source => ?_⟩
  exact reach_failed_start (keeps_faultyStore VolatileStore.keeps) (reach_any stalled recording) h source

end Camera

end Connectivity
