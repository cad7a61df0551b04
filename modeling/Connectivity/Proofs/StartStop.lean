/-
  Connectivity.Proofs.StartStop — what starting and stopping one mode does to both.
  - `start_modes`, `stop_cases`: a start touches its own mode only; a stop takes its own mode down,
    after the event ahead of the teardown, if that arrives, took the leases held on the interface.
    Between the two the lock may be lost, and then the mode is not taken down.
  - So the other mode keeps everything but a lease on the same interface.
  - `stop_error_cases`: a stop that fails leaves both modes as they were, but for such leases.
-/

import Mathlib.Control.Monad.Basic
import Connectivity.Proofs.CallLog
import Connectivity.Proofs.Consistency

namespace Connectivity.ControlPlane

variable {σ τ : Type} {M : ControlPlane σ τ}

/-! ## Starts -/

/-- A start touches the mode of its handle only. -/
theorem start_modes {s : State σ τ} {r : Modes} (hr : s.roster.modes = some r) (hl : r.Labelled) {h : Handle}
    {mode : Mode} (hm : s.roster.modeOf h = .ok mode) (source : ParameterSource) :
    ∃ m, (M.start h source s).2.roster.modes = some (r.set mode m) := by
  have unchanged {r? : Option Modes} (hr? : r? = some r) : ∃ m, r? = some (r.set mode m) :=
    ⟨r.get mode, by rw [hr?, Modes.set_get]⟩
  rcases withMode_cases h true _ s with ⟨_, -, hv⟩ | ⟨mode', r', s', hm', hr', hs', -, -, hv⟩
  · have hv : (M.start h source s).2.view = s.view := hv
    exact unchanged ((congrArg Prod.fst hv).trans hr)
  · obtain rfl : mode = mode' := Except.ok.inj (hm.symm.trans hm')
    obtain rfl : r = r' := Option.some.inj (hr.symm.trans hr')
    have hmodes : (M.start h source s).2.roster.modes = _ := congrArg Prod.fst hv
    rw [hmodes]
    have hs' : s'.roster.modes = some r := (congrArg Prod.fst hs').trans hr
    split
    · exact unchanged hs'
    · rename_i hd
      obtain ⟨hroster, -⟩ : _ ∧ M.Leads false s'.view _ := resolve_leads (r.get mode) source s'
      split <;> rename_i hx <;> rw [hx] at hroster
      · exact unchanged ((congrArg Roster.modes hroster).trans hs')
      · rename_i p s''
        have hs'' : s''.roster.modes = some r := (congrArg Roster.modes hroster).trans hs'
        split
        · exact unchanged hs''
        · rename_i kind hk
          obtain ⟨x, -, hv''⟩ : ∃ x, M.Turn false (r.get mode, s''.env) x ∧ _ :=
            bringUp_turn hs'' (hl mode) (Decidable.not_not.mp hd) hk
          exact ⟨x.1, congrArg Prod.fst hv''⟩

/-! ## Stops -/

theorem heard?_eq_some {m : ModeState} {e : Env σ} {name : String} (h : M.heard? m e = some name) :
    m.carrierName? = some name ∧ M.hears name e = true := by
  obtain ⟨hn, hh⟩ := Option.filter_eq_some_iff.mp h
  exact ⟨hn, hh⟩

/-- The wait of a stop is ended by the event of its interface, if that arrives, and else by its time. -/
theorem releaseBeforeStop_fst {s : State σ τ} {r : Modes} (hr : s.roster.modes = some r) {mode : Mode} {name : String}
    (ha : (r.get mode).accepts name = true) : (M.releaseBeforeStop mode name s).1 = M.hears name s.env := by
  unfold releaseBeforeStop
  rw [announceStop_eq]
  simp only
  have hhears : M.hears name (s.rearm mode).env = M.hears name s.env := rfl
  rw [hhears]
  generalize hs₁ : ({ s.rearm mode with env := _ } : State σ τ) = s₁
  have hr₁ : s₁.roster.modes = some r := hs₁ ▸ hr
  have hlatch : s₁.latches mode = (s.latches mode).rearm := by
    rw [← hs₁]
    exact if_pos rfl
  cases M.hears name s.env with
  | false =>
    simp only [Bool.false_eq_true, if_false, State.await, hlatch]
    rfl
  | true =>
    obtain ⟨r', hr', ha'⟩ : ∃ r',
        (M.giveBack name .accessPoint (M.giveBack name .normal s₁)).roster.modes = some r' ∧
          (r'.get mode).accepts name = true := by
      have hroster := roster_receive_ifDownPre (M := M) s₁ name
      unfold receive at hroster
      rw [roster_letThrough] at hroster
      refine ⟨r.givenBack name, by rw [hroster, hr₁]; rfl, ?_⟩
      rw [Modes.get_givenBack, ModeState.givenBack, if_pos ha]
      exact ha
    simp only [if_true, receive, letThrough, State.await, hr', if_pos ha']
    rfl

/-- A stop is refused and changes no mode; or another caller takes the lock while the stop waits, and the mode's
    interface is announced only; or it is taken down. -/
theorem stop_cases {s : State σ τ} (hl : ∀ r, s.roster.modes = some r → r.Labelled) (h : Handle) :
    (∃ err, (M.stop h s).1 = .error err ∧ (M.stop h s).2.view = s.view) ∨
    (∃ mode r s', s.roster.modeOf h = .ok mode ∧ s.roster.modes = some r ∧ s'.view = s.view ∧
      (r.get mode).status.isRunning = true ∧ s.roster.contended = true ∧
      (M.stop h s).1 = .error .resourceLockTimeout ∧
      (M.stop h s).2.view =
        (some ((M.heard? (r.get mode) s.env).elim r r.givenBack), (M.announced (r.get mode) s').env)) ∨
    ∃ mode r r₁ s' x, s.roster.modeOf h = .ok mode ∧ s.roster.modes = some r ∧ s'.view = s.view ∧
      (r.get mode).status.isRunning = true ∧ s.roster.contended = false ∧
      r₁ = (M.heard? (r.get mode) s.env).elim r r.givenBack ∧
      x = Link.stop M.platform (r₁.get mode) (M.announced (r.get mode) s').env ∧
      (M.stop h s).1 = x.1 ∧ (M.stop h s).2.view = (some (r₁.set mode x.2.1.refresh.2), x.2.2) := by
  rcases withMode_cases h true _ s with ⟨err, he, hv⟩ | ⟨mode, r, s', hm, hr, hs', ⟨hlocked, hcontended⟩, hres, hv⟩
  · exact .inl ⟨err, he, hv⟩
  · have hres : (M.stop h s).1 = _ := hres
    have hv : (M.stop h s).2.view = _ := hv
    rw [hres, hv]
    have hmode : (r.get mode).mode = mode := hl r hr mode
    split
    · rename_i hrun
      rw [hmode]
      have hr' : s'.roster.modes = some r := (congrArg Prod.fst hs').trans hr
      have he' : s'.env = s.env := congrArg Prod.snd hs'
      have hlock := lock_prepareStop (M := M) (m := r.get mode) hr' hlocked
      rw [hcontended, he'] at hlock
      cases hcontention : s.roster.contended with
      | true =>
        right
        left
        rw [hcontention, if_pos rfl] at hlock
        have hview : (M.prepareStop (r.get mode) s').view =
            (some ((M.heard? (r.get mode) s.env).elim r r.givenBack), (M.announced (r.get mode) s').env) := by
          rw [view_prepareStop, State.view, roster_announced, hr', he']
          rfl
        refine ⟨mode, r, s', hm, hr, hs', hrun, rfl, ?_, ?_⟩
        · simp only [takeDown, hlock]
        · simp only [takeDown, hlock]
          exact hview
      | false =>
        right
        right
        rw [hcontention, if_neg Bool.false_ne_true] at hlock
        refine ⟨mode, r, _, s', _, hm, hr, hs', hrun, rfl, rfl, rfl, ?_⟩
        rw [← env_prepareStop]
        exact takeDown_of_lock hlock mode
    · exact .inl ⟨_, rfl, hs'⟩

/-- A stop that fails is refused, or loses the lock, or fails with the platform's stop of the carrier. -/
theorem stop_error_cases {s : State σ τ} (hl : ∀ r, s.roster.modes = some r → r.Labelled) {h : Handle}
    {err : Error} (he : (M.stop h s).1 = .error err) :
    (M.stop h s).2.view = s.view ∨
    ∃ mode r r₁ s' name, s.roster.modeOf h = .ok mode ∧ s.roster.modes = some r ∧ s'.view = s.view ∧
      (r.get mode).status.isRunning = true ∧ (r.get mode).carrierName? = some name ∧
      r₁ = (M.heard? (r.get mode) s.env).elim r r.givenBack ∧
      (err = .resourceLockTimeout ∧ s.roster.contended = true ∧
          (M.stop h s).2.view = (some r₁, (M.announceStop name s').env) ∨
        s.roster.contended = false ∧
          (M.stop h s).2.view =
            (some (r₁.set mode (r₁.get mode).refresh.2),
              ((M.announceStop name s').env.perform (M.platform.stop name)).2.signal .errorHardware true)) := by
  rcases stop_cases hl h with
    ⟨_, -, hv⟩ | ⟨mode, r, s', hm, hr, hs', hrun, hc, hres, hv⟩ |
      ⟨mode, r, r₁, s', x, hm, hr, hs', hrun, hc, hr₁, hx, hres, hv⟩
  · exact .inl hv
  · cases hname : (r.get mode).carrierName? with
    | none =>
      left
      have hr' : s'.roster.modes = some r := (congrArg Prod.fst hs').trans hr
      have hsame : ((some r, s'.env) : Option Modes × Env σ) = s'.view := by rw [State.view, hr']
      simp only [heard?, announced, hname, Option.filter_none, Option.elim_none] at hv
      rw [hv, hsame, hs']
    | some name =>
      refine .inr ⟨mode, r, _, s', name, hm, hr, hs', hrun, hname, rfl, .inl ⟨?_, hc, ?_⟩⟩
      · exact Except.error.inj (he.symm.trans hres)
      · rw [hv]
        simp only [announced, hname]
  · obtain ⟨result, m', e'⟩ := x
    obtain rfl : result = .error err := hres.symm.trans he
    obtain ⟨c, hcarrier, rfl, rfl⟩ := Link.stop_error _ hx.symm
    have hname : (r.get mode).carrierName? = some c.name := by
      rw [← ModeState.carrierName?_of_carrier hcarrier, hr₁]
      cases M.heard? (r.get mode) s.env with
      | none => rfl
      | some name => simp
    refine .inr ⟨mode, r, r₁, s', c.name, hm, hr, hs', hrun, hname, hr₁, .inr ⟨hc, ?_⟩⟩
    rw [hv]
    simp only [announced, hname]

/-- A stop changes no mode, or touches its own after the event ahead of the teardown. -/
theorem stop_modes {s : State σ τ} {r : Modes} (hr : s.roster.modes = some r) (hl : r.Labelled) {h : Handle}
    {mode : Mode} (hm : s.roster.modeOf h = .ok mode) :
    (M.stop h s).2.roster.modes = some r ∨
      (r.get mode).status.isRunning = true ∧
        ∃ m, (M.stop h s).2.roster.modes =
          some (((M.heard? (r.get mode) s.env).elim r r.givenBack).set mode m) := by
  have hl' : ∀ r', s.roster.modes = some r' → r'.Labelled := by
    intro r' hr'
    obtain rfl : r = r' := Option.some.inj (hr.symm.trans hr')
    exact hl
  rcases stop_cases hl' h with
    ⟨_, -, hv⟩ | ⟨mode', r', s', hm', hr', -, hrun, -, -, hv⟩ |
      ⟨mode', r', r₁, s', x, hm', hr', -, hrun, -, hr₁, -, -, hv⟩
  · exact .inl ((congrArg Prod.fst hv).trans hr)
  · obtain rfl : mode = mode' := Except.ok.inj (hm.symm.trans hm')
    obtain rfl : r = r' := Option.some.inj (hr.symm.trans hr')
    refine .inr ⟨hrun, ((M.heard? (r.get mode) s.env).elim r r.givenBack).get mode, ?_⟩
    rw [Modes.set_get]
    exact congrArg Prod.fst hv
  · obtain rfl : mode = mode' := Except.ok.inj (hm.symm.trans hm')
    obtain rfl : r = r' := Option.some.inj (hr.symm.trans hr')
    rw [← hr₁]
    exact .inr ⟨hrun, _, congrArg Prod.fst hv⟩

/-! ## The other mode -/

/-- Starting or stopping one mode, with or without success, leaves the other as it is; but a stop
    whose pre-teardown event arrives takes the session of another mode on the same interface. -/
theorem reach_other_mode {env : Env σ} {store : τ} {s : State σ τ} {r : Modes} {h : Handle}
    {mode other : Mode} (hs : M.Reach (fun _ _ => True) (M.initial env store) s)
    (hr : s.roster.modes = some r) (hm : s.roster.modeOf h = .ok mode) (ho : other ≠ mode) :
    (∀ source, ∃ r', (M.start h source s).2.roster.modes = some r' ∧ r'.get other = r.get other) ∧
    ∃ r', (M.stop h s).2.roster.modes = some r' ∧
      (r'.get other = r.get other ∨
        ∃ name, (r.get mode).status.isRunning = true ∧ (r.get mode).carrierName? = some name ∧
          M.hears name s.env = true ∧ (r.get other).accepts name = true ∧
          r'.get other = { r.get other with client := none }) := by
  have hl : r.Labelled := hs.labelled rfl r hr
  have get_other (r : Modes) (m : ModeState) : (r.set mode m).get other = r.get other := by
    rw [Modes.get_set, if_neg ho.symm]
  constructor
  · intro source
    obtain ⟨m, hstart⟩ := start_modes hr hl hm source
    exact ⟨_, hstart, get_other r m⟩
  · rcases stop_modes hr hl hm with hstop | ⟨hrun, m, hstop⟩
    · exact ⟨r, hstop, .inl rfl⟩
    · refine ⟨_, hstop, ?_⟩
      rw [get_other]
      cases hheard : M.heard? (r.get mode) s.env with
      | none => exact .inl rfl
      | some name =>
        obtain ⟨hname, hh⟩ := heard?_eq_some hheard
        simp only [Option.elim_some, Modes.get_givenBack, ModeState.givenBack]
        split
        · rename_i ha
          exact .inr ⟨name, hrun, hname, hh, ha, rfl⟩
        · exact .inl rfl

end Connectivity.ControlPlane

namespace Connectivity.Camera

open Simulation ControlPlane

/-- Both modes use the radio, and the normal one has a lease. -/
def share {σ τ : Type} : List (Move σ τ) := join ++ [.start accessPoint (.given hotspot)]

/-- Stopping the access point gives back the lease of the normal mode. -/
theorem a_stop_on_a_shared_radio_takes_the_other_lease :
    ¬ ∀ (s : PlaneState) (h : Handle) (mode other : Mode), plane.Reach (fun _ _ => True) off s →
      s.roster.modeOf h = .ok mode → other ≠ mode → (plane.stop h s).2.mode? other = s.mode? other := by
  intro hkept
  have hm : (plane.run share off).roster.modeOf accessPoint = .ok .accessPoint := by decide +kernel
  have h := hkept _ accessPoint .accessPoint .normal (reach_any share off) hm (by decide)
  have hlost : (plane.stop accessPoint (plane.run share off)).2.mode? .normal ≠
      (plane.run share off).mode? .normal := by decide +kernel
  exact hlost h

theorem share_other_mode :
    let s := plane.run share off
    ∃ r, s.roster.modes = some r ∧
      (∀ source, ∃ r', (plane.start accessPoint source s).2.roster.modes = some r' ∧
        r'.get .normal = r.get .normal) ∧
      ∃ r', (plane.stop accessPoint s).2.roster.modes = some r' ∧
        (r'.get .normal = r.get .normal ∨
          ∃ name, (r.get .accessPoint).status.isRunning = true ∧
            (r.get .accessPoint).carrierName? = some name ∧ plane.hears name s.env = true ∧
            (r.get .normal).accepts name = true ∧
            r'.get .normal = { r.get .normal with client := none }) := by
  intro s
  have hs : s.roster.modes.isSome = true := by decide +kernel
  obtain ⟨r, hr⟩ := Option.isSome_iff_exists.mp hs
  have hm : s.roster.modeOf accessPoint = .ok .accessPoint := by decide +kernel
  exact ⟨r, hr, reach_other_mode (reach_any share off) hr hm (by decide)⟩

end Connectivity.Camera

namespace Connectivity

/-! ## Stops that fail -/

/-- The calls that give back a mode's session as its interface is about to go down, the latest
    first. -/
def ModeState.surrendered (m : ModeState) (name : String) : List PlatformCall :=
  match m.client with
  | some c => if m.accepts name then [.close c.session, .release c.session] else []
  | none => []

theorem ModeState.refresh_of_told {m : ModeState} (h : m.told = m.standing) : m.refresh.2 = m := by
  rw [refresh_snd, ← h]

namespace ControlPlane

variable {σ τ : Type} {M : ControlPlane σ τ}

theorem calls_giveBack {s : State (Recorded σ) τ} {r : Modes} (hr : s.roster.modes = some r) (name : String)
    (mode : Mode) :
    (M.recorded.giveBack name mode s).env.calls = (r.get mode).surrendered name ++ s.env.calls := by
  unfold giveBack State.mode? ModeState.surrendered
  rw [hr]
  simp only [Option.map_some]
  cases (r.get mode).client with
  | none =>
    simp only
    split <;> rfl
  | some c =>
    simp only
    split <;> rfl

/-- Of the two modes only the normal one has a session to give back. -/
theorem calls_announceStop {s : State (Recorded σ) τ} {r : Modes} (hr : s.roster.modes = some r)
    (hc : r.accessPoint.client = none) (name : String) :
    (M.recorded.announceStop name s).env.calls =
      (if M.recorded.hears name s.env then r.normal.surrendered name else []) ++
        .announceStop name :: s.env.calls := by
  rw [announceStop_eq]
  generalize hs₁ : { s with env := (s.env.perform (M.recorded.platform.announceStop name)).2 } = s₁
  have hr₁ : s₁.roster.modes = some r := by
    rw [← hs₁]
    exact hr
  have hcalls : s₁.env.calls = .announceStop name :: s.env.calls := by
    rw [← hs₁]
    rfl
  simp only
  split
  · have hr₂ : (M.recorded.giveBack name .normal s₁).roster.modes =
        some (r.set .normal ((r.get .normal).givenBack name)) := by
      rw [roster_giveBack, hr₁]
      rfl
    have hap : ((r.set .normal ((r.get .normal).givenBack name)).get .accessPoint).surrendered name = [] := by
      rw [Modes.get_set, if_neg (by decide)]
      simp [ModeState.surrendered, Modes.get, hc]
    unfold receive
    rw [env_letThrough, calls_giveBack hr₂, hap, calls_giveBack hr₁, hcalls]
    rfl
  · exact hcalls

/-- A stop that fails changes neither mode and gives nothing back; but if the pre-teardown event
    arrived, what was held on the interface was released and closed, once each, after the announcement and
    before the platform's stop, which is not asked for where another caller took the lock meanwhile. The rest of
    both modes is as it was, and the mode still counts as running. -/
theorem reach_failed_stop {env : Env (Recorded σ)} {store : τ} {s : State (Recorded σ) τ} {r : Modes}
    {h : Handle} {err : Error} (hs : M.recorded.Reach (fun _ _ => True) (M.recorded.initial env store) s)
    (hr : s.roster.modes = some r) (he : (M.recorded.stop h s).1 = .error err) :
    ((M.recorded.stop h s).2.roster.modes = some r ∧ (M.recorded.stop h s).2.env.uses = s.env.uses) ∨
    ∃ mode name, s.roster.modeOf h = .ok mode ∧ (r.get mode).status.isRunning = true ∧
      (r.get mode).carrierName? = some name ∧ M.recorded.hears name s.env = true ∧
      (M.recorded.stop h s).2.roster.modes = some (r.givenBack name) ∧
      (err = .resourceLockTimeout ∧ s.roster.contended = true ∧
          (M.recorded.stop h s).2.env.calls = r.normal.surrendered name ++ .announceStop name :: s.env.calls ∨
        s.roster.contended = false ∧
          (M.recorded.stop h s).2.env.calls =
            .stop name :: (r.normal.surrendered name ++ .announceStop name :: s.env.calls)) := by
  have hcons : r.Consistent none := reach_consistent (fun _ _ _ _ hb => by cases hb) rfl hs hr
  rcases stop_error_cases (hs.labelled rfl) he with
    hv | ⟨mode, r', r₁, s', name, hm, hr', hs', hrun, hname, hr₁, hv⟩
  · have henv : (M.recorded.stop h s).2.env = s.env := congrArg Prod.snd hv
    refine .inl ⟨(congrArg Prod.fst hv).trans hr, ?_⟩
    rw [henv]
  · obtain rfl : r = r' := Option.some.inj (hr.symm.trans hr')
    have henv : s'.env = s.env := congrArg Prod.snd hs'
    have hannounced := calls_announceStop (M := M) ((congrArg Prod.fst hs').trans hr) hcons.accessPoint name
    rw [henv] at hannounced
    cases hh : M.recorded.hears name s.env with
    | true =>
      have hheard : M.recorded.heard? (r.get mode) s.env = some name := by simp [heard?, hname, hh]
      rw [hheard, Option.elim_some] at hr₁
      subst hr₁
      rw [hh, if_pos rfl] at hannounced
      refine .inr ⟨mode, name, hm, hrun, hname, hh, ?_⟩
      rcases hv with ⟨rfl, hc, hv⟩ | ⟨hc, hv⟩
      · exact ⟨congrArg Prod.fst hv, .inl ⟨rfl, hc, (congrArg (Env.calls ∘ Prod.snd) hv).trans hannounced⟩⟩
      · have htold : ((r.givenBack name).get mode).told = ((r.givenBack name).get mode).standing := by
          simpa using hcons.told mode
        have hcalls : (M.recorded.stop h s).2.env.calls =
            .stop name :: (M.recorded.announceStop name s').env.calls :=
          congrArg (Env.calls ∘ Prod.snd) hv
        rw [ModeState.refresh_of_told htold, Modes.set_get] at hv
        rw [hannounced] at hcalls
        exact ⟨congrArg Prod.fst hv, .inr ⟨hc, hcalls⟩⟩
    | false =>
      have hheard : M.recorded.heard? (r.get mode) s.env = none := by simp [heard?, hname, hh]
      rw [hheard, Option.elim_none] at hr₁
      subst hr₁
      rw [hh] at hannounced
      left
      rcases hv with ⟨-, -, hv⟩ | ⟨-, hv⟩
      · have hcalls : (M.recorded.stop h s).2.env.calls = _ := (congrArg (Env.calls ∘ Prod.snd) hv).trans hannounced
        refine ⟨congrArg Prod.fst hv, ?_⟩
        rw [Env.uses, hcalls]
        rfl
      · have hcalls : (M.recorded.stop h s).2.env.calls =
            .stop name :: (M.recorded.announceStop name s').env.calls :=
          congrArg (Env.calls ∘ Prod.snd) hv
        rw [hannounced] at hcalls
        rw [ModeState.refresh_of_told (hcons.told mode), Modes.set_get] at hv
        refine ⟨congrArg Prod.fst hv, ?_⟩
        rw [Env.uses, hcalls]
        rfl

end ControlPlane

namespace Camera

open Simulation ControlPlane

/-- The board's next stop of an interface fails. -/
def jam (b : Board) : Board :=
  { b with
    inner := { b.inner with
      failures := b.inner.failures.insert .stop (.interface "stop" "wlan0" "busy") } }

/-- A lease is given back ahead of a stop that then fails. -/
theorem a_stop_that_fails_has_given_back_the_lease :
    ¬ ∀ (s : PlaneState) (h : Handle) (mode : Mode) (err : Error), plane.Reach (fun _ _ => True) off s →
      s.roster.modeOf h = .ok mode → (plane.stop h s).1 = .error err →
      ((plane.stop h s).2.mode? mode).map (·.client) = (s.mode? mode).map (·.client) := by
  intro hkept
  let mvs : List (Move Board Shelf) := join ++ [.outside jam id 0]
  have hm : (plane.run mvs off).roster.modeOf normal = .ok .normal := by decide +kernel
  have he : (plane.stop normal (plane.run mvs off)).1 =
      .error (.platform (.interface "stop" "wlan0" "busy")) := by decide +kernel
  have h := hkept _ normal .normal _ (reach_any mvs off) hm he
  have hlost : ((plane.stop normal (plane.run mvs off)).2.mode? .normal).map (·.client) ≠
      ((plane.run mvs off).mode? .normal).map (·.client) := by decide +kernel
  exact hlost h

theorem jammed_failed_stop :
    let s := plane.recorded.run (join ++ [.outside (fun x => { x with inner := jam x.inner }) id 0]) recording
    ∃ r, s.roster.modes = some r ∧
      (plane.recorded.stop normal s).1 = .error (.platform (.interface "stop" "wlan0" "busy")) ∧
      (((plane.recorded.stop normal s).2.roster.modes = some r ∧
          (plane.recorded.stop normal s).2.env.uses = s.env.uses) ∨
        ∃ mode name, s.roster.modeOf normal = .ok mode ∧ (r.get mode).status.isRunning = true ∧
          (r.get mode).carrierName? = some name ∧ plane.recorded.hears name s.env = true ∧
          (plane.recorded.stop normal s).2.roster.modes = some (r.givenBack name) ∧
          (Error.platform (.interface "stop" "wlan0" "busy") = .resourceLockTimeout ∧ s.roster.contended = true ∧
              (plane.recorded.stop normal s).2.env.calls =
                r.normal.surrendered name ++ .announceStop name :: s.env.calls ∨
            s.roster.contended = false ∧
              (plane.recorded.stop normal s).2.env.calls =
                .stop name :: (r.normal.surrendered name ++ .announceStop name :: s.env.calls))) := by
  intro s
  have hs : s.roster.modes.isSome = true := by decide +kernel
  obtain ⟨r, hr⟩ := Option.isSome_iff_exists.mp hs
  have he : (plane.recorded.stop normal s).1 = .error (.platform (.interface "stop" "wlan0" "busy")) := by
    decide +kernel
  exact ⟨r, hr, he, reach_failed_stop (reach_any _ recording) hr he⟩

/-- Where another caller takes the lock, the lease is given back as well, and the interface is not asked to
    stop. -/
example :
    let s := plane.recorded.run (join ++ [.lock false true]) recording
    (plane.recorded.stop normal s).1 = .error .resourceLockTimeout ∧
      (plane.recorded.stop normal s).2.env.calls.take 3 = [.close ⟨1⟩, .release ⟨1⟩, .announceStop "wlan0"] := by
  decide +kernel

end Camera

end Connectivity
