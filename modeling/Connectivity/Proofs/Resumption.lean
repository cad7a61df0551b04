/-
  Connectivity.Proofs.Resumption — a connection that once started can be started again.
  - `Startable`: parameters with which a start gets as far as the platform. A start that succeeds has shown
    that of the parameters it saves (`startable_of_start`), and no turn changes what they rest on.
  - `Turn.resumable`: so every turn leaves a mode whose saved parameters can be started, and every run does
    (`Reach.resumable`).
  - `saved_start`: a start that fails, with whatever parameters, leaves those that are saved.
  - `start_lastSaved`: a start with saved parameters answers what the platform answers.
-/

import Connectivity.Proofs.Control
import Connectivity.Proofs.Setups

namespace Connectivity

open ControlPlane in
/-- With these parameters a start gets as far as the platform: they are valid for a connection of the mode
    over the kind of interface they ask for, such an interface can be set up with them, and the mode has
    one. -/
structure ModeState.Startable (m : ModeState) (p : Parameters) (kind : InterfaceKind) (i : Interface)
    (setup : InterfaceSetup) : Prop where
  asked : checkedKind m.mode p = .ok kind
  valid : validate (.needed m.mode kind) p .connect = .ok ()
  accepted : interfaceSetup m.mode kind p = .ok setup
  assigned : m.interface? kind = some i

/-- The mode can be started with the parameters that it has saved. -/
def ModeState.Resumable (m : ModeState) : Prop :=
  ∀ p, m.saved = some p → ∃ kind i setup, m.Startable p kind i setup

namespace ModeState

variable {m m' : ModeState} {p : Parameters} {kind : InterfaceKind} {i : Interface} {setup : InterfaceSetup}

theorem Startable.of_eq (h : m.Startable p kind i setup) (hm : m'.mode = m.mode)
    (hi : ∀ kind, m'.interface? kind = m.interface? kind) : m'.Startable p kind i setup where
  asked := hm ▸ h.asked
  valid := hm ▸ h.valid
  accepted := hm ▸ h.accepted
  assigned := (hi kind).trans h.assigned

end ModeState

/-! ## Starts of a link -/

namespace Link

variable {σ : Type} (P : Platform σ) {m m' : ModeState} {e e' : Env σ} {p : Parameters} {kind : InterfaceKind}
  {i : Interface} {setup : InterfaceSetup}

theorem setup_of_start_ok (h : start P kind p m e = (.ok (), m', e')) :
    ∃ setup, interfaceSetup m.mode kind p = .ok setup := by
  unfold start at h
  split at h
  · cases h
  · split at h
    · cases h
    · exact ⟨_, ‹_›⟩

/-- With an interface that can be set up, the platform decides. -/
theorem start_result (hi : m.interface? kind = some i) (hs : interfaceSetup m.mode kind p = .ok setup) :
    (start P kind p m e).1 = (bringUp P i.name setup e).1.mapError .platform := by
  unfold start
  rw [hi]
  simp only [hs]
  split <;> rename_i hx <;> rw [hx] <;> rfl

end Link

namespace ControlPlane

open Roster

variable {σ τ : Type} {M : ControlPlane σ τ} {s : State σ τ} {r : Modes} {mode : Mode} {cap : Bool}
  {p : Parameters} {kind : InterfaceKind}

theorem validate_of_checkedKind (h : checkedKind mode p = .ok kind) :
    validate (.needed mode kind) p .connect = .ok () := by
  simp only [checkedKind] at h
  split at h
  · cases h
  · rename_i kind' _
    cases hv : validate (.needed mode kind') p .connect with
    | error err =>
      rw [hv] at h
      cases h
    | ok =>
      rw [hv] at h
      cases h
      exact hv

/-! ## What is saved -/

theorem startable_of_start {m m' : ModeState} {e e' : Env σ} (hk : checkedKind m.mode p = .ok kind)
    (hs : Link.start M.platform kind p m.cleared e = (.ok (), m', e')) :
    ∃ i setup, m.Startable p kind i setup := by
  obtain ⟨i, hi, -⟩ := Link.start_ok _ hs
  obtain ⟨setup, hsetup⟩ := Link.setup_of_start_ok _ hs
  have hi : m.interface? kind = some i := by
    cases kind <;> exact hi
  exact ⟨i, setup, hk, validate_of_checkedKind hk, hsetup, hi⟩

/-- A turn keeps what is saved, or saves what can be started. -/
theorem Turn.saved {x y : ModeState × Env σ} (h : M.Turn cap x y) :
    y.1.saved = x.1.saved ∨ ∃ p kind i setup, y.1.saved = some p ∧ x.1.Startable p kind i setup := by
  cases h with
  | listening => exact .inl rfl
  | @answered m e _ event =>
    have h := ModeState.saved_of_fixed (Dispatch.fixed_answer M.platform M.policy.retryNanos event m e)
    rw [ModeState.refresh_snd]
    exact .inl h
  | gaveBack => exact .inl rfl
  | notStarted _ hs =>
    rw [Link.start_error _ hs]
    exact .inl rfl
  | @started _ _ _ _ kind p _ hk hs =>
    obtain ⟨i, setup, hstart⟩ := startable_of_start hk hs
    rw [ModeState.refresh_snd]
    exact .inr ⟨p, kind, i, setup, rfl, hstart⟩
  | @stopped m e =>
    have h := ModeState.saved_of_fixed (Link.fixed_stop M.platform m e)
    rw [ModeState.refresh_snd]
    exact .inl h

theorem Turn.resumable {x y : ModeState × Env σ} (h : M.Turn cap x y) (hx : x.1.Resumable) : y.1.Resumable := by
  intro p hp
  have hstart : ∃ kind i setup, x.1.Startable p kind i setup := by
    rcases h.saved with hsame | ⟨p', kind, i, setup, hp', hstart⟩
    · exact hx p (hsame.symm.trans hp)
    · obtain rfl : p' = p := Option.some.inj (hp'.symm.trans hp)
      exact ⟨kind, i, setup, hstart⟩
  obtain ⟨kind, i, setup, hstart⟩ := hstart
  exact ⟨kind, i, setup, hstart.of_eq h.mode_eq h.interface?⟩

theorem invariant_resumable {ok : State σ τ → Move σ τ → Prop} :
    M.Invariant ok (fun v => ∀ r, v.1 = some r → ∀ mode, (r.get mode).Resumable) where
  change _ h _ hv r' hr' := by
    cases h with
    | @turn r _ _ mode ht =>
      cases hr'
      intro mode'
      rw [Modes.get_set]
      split
      · exact ht.resumable (hv r rfl mode)
      · exact hv r rfl mode'
    | asked => exact hv r' hr'
    | fresh hi =>
      cases hr'
      intro mode p hp
      obtain ⟨_, _, hm⟩ := get_ofInterfaces? hi mode
      rw [hm] at hp
      cases hp
  outside _ hv := hv
  gone _ _ _ r hr := by cases hr

theorem Reach.resumable {ok : State σ τ → Move σ τ → Prop} {s₀ : State σ τ} (h : M.Reach ok s₀ s)
    (hs : s₀.roster.modes = none) (hr : s.roster.modes = some r) (mode : Mode) : (r.get mode).Resumable :=
  (h.holds invariant_resumable (by simp [hs]) (by simp [State.view, hs])).1 r hr mode

/-! ## Starts -/

/-- A start that fails leaves the saved parameters of both modes. -/
theorem saved_start (hl : ∀ r, s.roster.modes = some r → r.Labelled) (hr : s.roster.modes = some r) {h : Handle}
    {source : ParameterSource} {err : Error} (he : (M.start h source s).1 = .error err) (mode : Mode) :
    ∃ r', (M.start h source s).2.roster.modes = some r' ∧ (r'.get mode).saved = (r.get mode).saved := by
  rcases start_cases (M := M) hl h source with ⟨_, -, hsame⟩ | ⟨own, r₀, m, -, hr₀, -, hmodes, hcases⟩
  · exact ⟨r, hsame.trans hr, rfl⟩
  · obtain rfl : r = r₀ := Option.some.inj (hr.symm.trans hr₀)
    rcases hcases with ⟨-, rfl⟩ | ⟨hok, -⟩
    · refine ⟨_, hmodes, ?_⟩
      rw [Modes.get_set]
      split
      · rename_i hown
        rw [hown]
        rfl
      · rfl
    · rw [hok] at he
      cases he

theorem bringUp_result (m : ModeState) (kind : InterfaceKind) (p : Parameters) (s : State σ τ) :
    (M.bringUp m kind p s).1 = (Link.start M.platform kind p m.cleared s.env).1 := by
  unfold bringUp
  split <;> rename_i hx <;> rw [hx]

/-- A start with saved parameters that can be started answers what the platform does, unless another caller
    holds the lock. -/
theorem start_lastSaved {i : Interface} {setup : InterfaceSetup} {h : Handle} (ha : Accounted s.roster [])
    (hr : s.roster.modes = some r) (hd : (r.get mode).status = .disconnected) (hh : s.roster.Controls mode h)
    (hp : (r.get mode).saved = some p) (hstart : (r.get mode).Startable p kind i setup) :
    s.roster.locked = true ∧ (M.start h .lastSaved s).1 = .error .resourceLockTimeout ∨
      (M.start h .lastSaved s).1 = (Link.bringUp M.platform i.name setup s.env).1.mapError .platform := by
  rcases withMode_granted (hh.enter ha nofun) hr _ with hlocked | ⟨s', hs', -, hres, -⟩
  · exact .inl hlocked
  · right
    have hres : (M.start h .lastSaved s).1 = _ := hres
    have henv : s'.env = s.env := congrArg Prod.snd hs'
    have hi : (r.get mode).cleared.interface? kind = some i := by
      have hi := hstart.assigned
      cases kind <;> exact hi
    rw [hres]
    simp only [hd, resolve, hp, hstart.asked]
    rw [if_neg (by simp), bringUp_result, Link.start_result M.platform hi hstart.accepted, henv]

/-! ## Runs -/

/-- Whatever was called and whatever the platform answered: what a mode has saved is valid for a connection
    over the kind of interface it asks for, such an interface can be set up with it, with what its section says,
    and the mode has one. So while the mode is disconnected, a start of it through any handle for its control
    succeeds if the platform brings the interface up, and fails only with the platform's own error, or because
    another caller holds the lock. No start that fails, through whatever handle and with whatever parameters,
    replaces it. -/
theorem reach_restartable {env : Env σ} {store : τ} (hs : M.Reach (fun _ _ => True) (M.initial env store) s)
    (hr : s.roster.modes = some r) (mode : Mode) :
    (∀ p, (r.get mode).saved = some p →
      ∃ kind i setup, checkedKind mode p = .ok kind ∧ validate (.needed mode kind) p .connect = .ok () ∧
        (interfaceSetup mode kind p = .ok setup ∧ p.Configures mode kind setup) ∧
        (r.get mode).interface? kind = some i ∧
        ((r.get mode).status = .disconnected → ∀ h, s.roster.Controls mode h →
          s.roster.locked = true ∧ (M.start h .lastSaved s).1 = .error .resourceLockTimeout ∨
            (M.start h .lastSaved s).1 = (Link.bringUp M.platform i.name setup s.env).1.mapError .platform)) ∧
    ∀ h source err, (M.start h source s).1 = .error err →
      ∃ r', (M.start h source s).2.roster.modes = some r' ∧ (r'.get mode).saved = (r.get mode).saved := by
  refine ⟨fun p hp => ?_, fun h source err he => saved_start (hs.labelled rfl) hr he mode⟩
  obtain ⟨kind, i, setup, hstart⟩ := hs.resumable rfl hr mode p hp
  have ⟨hk, hv, hset, hi⟩ := hstart
  rw [hs.labelled rfl r hr mode] at hk hv hset
  exact ⟨kind, i, setup, hk, hv, ⟨hset, interfaceSetup_eq_ok_iff.mp hset⟩, hi, fun hd h hh =>
    start_lastSaved hs.commanded.1 hr hd hh hp hstart⟩

end ControlPlane

namespace Camera

open Simulation ControlPlane

/-- The board's next start of an interface fails. -/
def stick (b : Board) : Board :=
  { b with
    inner := { b.inner with
      failures := b.inner.failures.insert .start (.interface "start" "eth0" "busy") } }

/-- The normal mode has left the network, and a start over Ethernet has failed. -/
def leave : List (Move Board Shelf) :=
  join ++ [.stop normal, .outside stick id 0, .start normal (.given { normal := { netifKind := 1 } })]

theorem leave_restartable :
    let s := plane.run leave off
    ∃ r, s.roster.modes = some r ∧ r.normal.saved = some home ∧ r.normal.status = .disconnected ∧
      s.roster.Controls .normal normal ∧
      (∀ p, (r.get .normal).saved = some p →
        ∃ kind i setup, checkedKind .normal p = .ok kind ∧ validate (.needed .normal kind) p .connect = .ok () ∧
          (interfaceSetup .normal kind p = .ok setup ∧ p.Configures .normal kind setup) ∧
          (r.get .normal).interface? kind = some i ∧
          ((r.get .normal).status = .disconnected → ∀ h, s.roster.Controls .normal h →
            s.roster.locked = true ∧ (plane.start h .lastSaved s).1 = .error .resourceLockTimeout ∨
              (plane.start h .lastSaved s).1 =
                (Link.bringUp plane.platform i.name setup s.env).1.mapError .platform)) ∧
      ∀ h source err, (plane.start h source s).1 = .error err →
        ∃ r', (plane.start h source s).2.roster.modes = some r' ∧
          (r'.get .normal).saved = (r.get .normal).saved := by
  intro s
  have hm : s.roster.modes.any (fun r =>
      decide (r.normal.saved = some home) && decide (r.normal.status = .disconnected)) = true := by
    decide +kernel
  obtain ⟨r, hr, hd⟩ := (Option.any_eq_true _ _).mp hm
  simp only [Bool.and_eq_true, decide_eq_true_eq] at hd
  have hlive : s.roster.live? normal = some { mode := .normal, access := .control } := by decide +kernel
  exact ⟨r, hr, hd.1, hd.2, ⟨_, hlive, rfl, rfl⟩, reach_restartable (reach_any leave off) hr .normal⟩

end Camera

end Connectivity
