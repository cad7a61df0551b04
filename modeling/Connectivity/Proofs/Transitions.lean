/-
  Connectivity.Proofs.Transitions — how the status of a mode may change.
  - `Legal`: the changes that there are, each with the moves that make it. Only a start connects a
    mode, only its own stop disconnects it, only events go back and forth between connecting and
    connected, and only the events that say that its interface is down end a disconnection.
  - `reach_legal`: no move makes any other change, and calls that fail make none.
-/

import Connectivity.Proofs.Deeds
import Connectivity.Proofs.Moves

namespace Connectivity

namespace ControlPlane

variable {σ τ : Type} (M : ControlPlane σ τ)

/-- What a move in `s` may make of the status of a mode whose state is `m`. -/
inductive Legal (s : State σ τ) (mode : Mode) (m : ModeState) : Move σ τ → Status → Prop
  | kept (mv : Move σ τ) : Legal s mode m mv m.status
  | started {h : Handle} {source : ParameterSource} :
      s.roster.modeOf h = .ok mode → (M.start h source s).1 = .ok () → m.status = .disconnected →
      Legal s mode m (.start h source) .connecting
  | connected {name : String} {event : Event} :
      m.carrierName? = some name → m.status = .connecting → Legal s mode m (.event name event) .connected
  | fellBack {name : String} {event : Event} :
      m.carrierName? = some name → m.status = .connected → Legal s mode m (.event name event) .connecting
  | stopped {h : Handle} {status : Status} :
      s.roster.modeOf h = .ok mode → (M.stop h s).1 = .ok () → m.status.isRunning = true →
      status = .disconnecting ∨ status = .disconnected → Legal s mode m (.stop h) status
  | ended {name : String} :
      m.carrierName? = some name → m.status = .disconnecting →
      Legal s mode m (.event name .ifDown) .disconnected
  | stationEnded {name : String} :
      mode = .normal → m.carrier = some ⟨name, .wifi⟩ → m.status = .disconnecting →
      Legal s mode m (.event name .stationStopped) .disconnected

variable {M} {s : State σ τ} {mode : Mode} {m m' : ModeState}

theorem Legal.of_eq {mv : Move σ τ} (h : m'.status = m.status) : M.Legal s mode m mv m'.status := by
  rw [h]
  exact .kept mv

/-! ## Moves -/

theorem legal_start (hl : ∀ r, s.roster.modes = some r → r.Labelled) {r r' : Modes}
    (hr : s.roster.modes = some r) {h : Handle} {source : ParameterSource}
    (hr' : (M.start h source s).2.roster.modes = some r') (mode : Mode) :
    M.Legal s mode (r.get mode) (.start h source) (r'.get mode).status := by
  rcases start_cases hl h source with ⟨_, -, hv⟩ | ⟨mode₀, r₀, m, hm, hr₀, hd, hv, hcases⟩
  · obtain rfl : r = r' := Option.some.inj ((hv.trans hr).symm.trans hr')
    exact .kept _
  · obtain rfl : r = r₀ := Option.some.inj (hr.symm.trans hr₀)
    obtain rfl : r.set mode₀ m = r' := Option.some.inj (hv.symm.trans hr')
    rw [Modes.get_set]
    split
    · rename_i heq
      subst heq
      rcases hcases with ⟨-, rfl⟩ | ⟨hok, _, _, rfl, -⟩
      · exact .of_eq rfl
      · rw [ModeState.begun_status]
        exact .started hm hok hd
    · exact .kept _

theorem legal_stop (hl : ∀ r, s.roster.modes = some r → r.Labelled) {r r' : Modes}
    (hr : s.roster.modes = some r) {h : Handle} (hr' : (M.stop h s).2.roster.modes = some r') (mode : Mode) :
    M.Legal s mode (r.get mode) (.stop h) (r'.get mode).status := by
  rcases modes_stop hl hr h with
    ⟨_, r₁, -, hsur, hv⟩ | ⟨mode₀, r₁, e, ⟨result, m', e'⟩, hm, hrun, hsur, hx, hres, hv⟩
  · obtain rfl : r₁ = r' := Option.some.inj (hv.symm.trans hr')
    exact .of_eq (hsur.status mode)
  · obtain rfl : r₁.set mode₀ _ = r' := Option.some.inj (hv.symm.trans hr')
    rw [Modes.get_set]
    split
    · rename_i heq
      subst heq
      rw [ModeState.refresh_snd]
      cases result with
      | error err =>
        obtain ⟨c, -, rfl, -⟩ := Link.stop_error _ hx
        exact .of_eq (hsur.status mode₀)
      | ok u =>
        refine .stopped hm hres hrun ?_
        rcases Link.stop_ok_fst _ hx with ⟨-, rfl⟩ | ⟨-, -, -, hstatus⟩
        · exact .inr rfl
        · exact hstatus
    · exact .of_eq (hsur.status mode)

theorem Legal.of_running {name : String} {event : Event} (hname : m.carrierName? = some name)
    (h : m.status.isRunning = true) (h' : m'.status.isRunning = true) :
    M.Legal s mode m (.event name event) m'.status := by
  rcases Status.isRunning_iff.mp h with hs | hs <;> rcases Status.isRunning_iff.mp h' with hs' | hs'
  · exact .of_eq (hs'.trans hs.symm)
  · exact hs' ▸ .connected hname hs
  · exact hs' ▸ .fellBack hname hs
  · exact .of_eq (hs'.trans hs.symm)

/-- An event of the mode's interface finds it running or disconnecting. -/
theorem legal_reaction (hm : m.mode = mode) (hc : m.status.isRunning = false → m.client = none)
    (name : String) (event : Event) (e : Env σ) :
    M.Legal s mode m (.event name event) (M.reaction name event m e).1.status := by
  unfold reaction
  split
  · rename_i ha
    obtain ⟨hn, hname⟩ := ModeState.accepts_iff.mp ha
    split
    · split <;> exact .of_eq rfl
    · simp only [ModeState.refresh_snd]
      cases hr : m.status.isRunning with
      | true => exact .of_running hname hr ((Dispatch.deeds_answer _ event hr).isRunning hr)
      | false =>
        have hs : m.status = .disconnecting := Status.eq_disconnecting hr hn
        obtain ⟨hf, -⟩ : Dispatch.Fading event m (Dispatch.answer M.platform M.policy.retryNanos event m e).1 ∧ _ :=
          Dispatch.answer_ending _ event hs (hc hr)
        rcases hf.status with h | ⟨h, hends⟩
        · exact .of_eq (h.trans hs.symm)
        · rw [h]
          rcases hends with rfl | ⟨rfl, hnormal, hkind⟩
          · exact .ended hname hs
          · refine .stationEnded (hm.symm.trans hnormal) ?_ hs
            obtain ⟨c, hcarrier, rfl⟩ := Option.map_eq_some_iff.mp hname
            obtain ⟨c', hcarrier', hwifi⟩ := Option.map_eq_some_iff.mp hkind
            obtain rfl : c = c' := Option.some.inj (hcarrier.symm.trans hcarrier')
            rw [hcarrier, ← hwifi]
  · exact .kept _

/-! ## Runs -/

theorem legal_step {r r' : Modes} (hl : ∀ r, s.roster.modes = some r → r.Labelled)
    (hcons : r.Consistent none) (hr : s.roster.modes = some r) (mv : Move σ τ)
    (hr' : (M.step mv s).roster.modes = some r') (mode : Mode) :
    M.Legal s mode (r.get mode) mv (r'.get mode).status := by
  by_cases hcalm : mv.isCalm = true
  · obtain ⟨b, hb⟩ := calm_step (hl r hr) hr hcalm hr' mode
    rw [hb]
    exact .of_eq rfl
  · cases mv with
    | start h source => exact legal_start hl hr hr' mode
    | stop h => exact legal_stop hl hr hr' mode
    | event name event =>
      obtain ⟨r'', hr'', hget⟩ := modes_receive (M := M) hr name event
      obtain rfl : r'' = r' := Option.some.inj (hr''.symm.trans hr')
      obtain ⟨e, he⟩ := hget mode
      rw [he]
      exact legal_reaction (hl r hr mode) hcons.no_client name event e
    | _ => exact absurd rfl hcalm

/-- Whatever the platform answers, every move changes the status of each mode in a legal way or not
    at all, and a start or stop that fails changes no status. -/
theorem reach_legal {env : Env σ} {store : τ} {r : Modes}
    (hs : M.Reach (fun _ _ => True) (M.initial env store) s) (hr : s.roster.modes = some r) :
    (∀ mv r', (M.step mv s).roster.modes = some r' →
      ∀ mode, M.Legal s mode (r.get mode) mv (r'.get mode).status) ∧
    (∀ h source err, (M.start h source s).1 = .error err →
      ∃ r', (M.start h source s).2.roster.modes = some r' ∧
        ∀ mode, (r'.get mode).status = (r.get mode).status) ∧
    ∀ h err, (M.stop h s).1 = .error err →
      ∃ r', (M.stop h s).2.roster.modes = some r' ∧
        ∀ mode, (r'.get mode).status = (r.get mode).status := by
  have hl := hs.labelled rfl
  have hcons : r.Consistent none := reach_consistent (fun _ _ _ _ hb => by cases hb) rfl hs hr
  have hlegal : ∀ mv r', (M.step mv s).roster.modes = some r' →
      ∀ mode, M.Legal s mode (r.get mode) mv (r'.get mode).status :=
    fun mv _ hr' mode => legal_step hl hcons hr mv hr' mode
  refine ⟨hlegal, fun h source err he => ?_, fun h err he => ?_⟩
  · obtain ⟨r', hr'⟩ : ∃ r', (M.start h source s).2.roster.modes = some r' := by
      rcases start_cases hl h source with ⟨_, -, hv⟩ | ⟨_, _, _, -, -, -, hv, -⟩
      · exact ⟨r, hv.trans hr⟩
      · exact ⟨_, hv⟩
    refine ⟨r', hr', fun mode => ?_⟩
    have hlegal := hlegal (.start h source) r' hr' mode
    generalize (r'.get mode).status = status at hlegal
    cases hlegal with
    | kept => rfl
    | started _ hok => rw [he] at hok; cases hok
  · obtain ⟨r', hr'⟩ : ∃ r', (M.stop h s).2.roster.modes = some r' := by
      rcases modes_stop hl hr h with ⟨_, r₁, -, -, hv⟩ | ⟨_, _, _, _, -, -, -, -, -, hv⟩
      · exact ⟨r₁, hv⟩
      · exact ⟨_, hv⟩
    refine ⟨r', hr', fun mode => ?_⟩
    have hlegal := hlegal (.stop h) r' hr' mode
    generalize (r'.get mode).status = status at hlegal
    cases hlegal with
    | kept => rfl
    | stopped _ hok => rw [he] at hok; cases hok

end ControlPlane

open Simulation ControlPlane in
theorem Camera.share_legal :
    let s := plane.run share off
    ∃ r, s.roster.modes = some r ∧ (r.normal.status, r.accessPoint.status) = (.connected, .connecting) ∧
      (∀ mv r', (plane.step mv s).roster.modes = some r' →
        ∀ mode, plane.Legal s mode (r.get mode) mv (r'.get mode).status) ∧
      (∀ h source err, (plane.start h source s).1 = .error err →
        ∃ r', (plane.start h source s).2.roster.modes = some r' ∧
          ∀ mode, (r'.get mode).status = (r.get mode).status) ∧
      ∀ h err, (plane.stop h s).1 = .error err →
        ∃ r', (plane.stop h s).2.roster.modes = some r' ∧
          ∀ mode, (r'.get mode).status = (r.get mode).status := by
  intro s
  have hm : s.roster.modes.any (fun r =>
      decide ((r.normal.status, r.accessPoint.status) = (.connected, .connecting))) = true := by
    decide +kernel
  obtain ⟨r, hr, hd⟩ := (Option.any_eq_true _ _).mp hm
  exact ⟨r, hr, of_decide_eq_true hd, reach_legal (reach_any share off) hr⟩

end Connectivity
