/-
  Connectivity.Proofs.Control — a mode that runs can be stopped by somebody.
  - `Controls`: a handle that lives and is for control of a mode. None is revoked while its mode runs
    (`Controls.revoke`), and no other call takes one away (`Controls.of_slots`, `Controls.issue`).
  - `Legal.started_or_running`: a mode runs after a move if it ran before, or if the move started it; and it
    is started through such a handle.
  - So a mode that runs has one in every run (`reach_stoppable`), and a stop through it is not refused.
-/

import Connectivity.Proofs.Guards
import Connectivity.Proofs.Transitions

namespace Connectivity

/-! ## Control handles -/

namespace Roster

/-- The handle lives and is for control of the mode. -/
def Controls (r : Roster) (mode : Mode) (h : Handle) : Prop :=
  ∃ e, r.live? h = some e ∧ e.mode = mode ∧ e.access = .control

/-- Each mode that runs has a handle for its control. -/
def Commanded (r : Roster) : Prop :=
  ∀ modes, r.modes = some modes → ∀ mode, (modes.get mode).status.isRunning = true → ∃ h, r.Controls mode h

variable {r r' : Roster} {mode : Mode} {h : Handle}

theorem Controls.of_slots (hc : r.Controls mode h) (hs : r'.slots = r.slots) : r'.Controls mode h := by
  unfold Controls
  rw [live?_congr hs]
  exact hc

theorem Controls.issue (hc : r.Controls mode h) (mode' : Mode) (access : Access) :
    (r.issue mode' access).2.Controls mode h := by
  obtain ⟨e, he, hm, ha⟩ := hc
  rcases issue_cases mode' access r with ⟨err, hx⟩ | ⟨slots, i, slot, hs, hslot, hfree, hx⟩ <;> rw [hx]
  · exact ⟨e, he, hm, ha⟩
  · refine ⟨e, ?_, hm, ha⟩
    -- The slot that is filled in was free, so it is not the handle's.
    have hne : i ≠ h.index := by
      rintro rfl
      have hat := at?_of_live? he
      simp [at?, hslot, hfree] at hat
    rw [live?_eq, slot?_setEntry hs, if_neg hne, ← live?_eq, he]

/-- A handle for control of a mode that runs is not revoked. -/
theorem Controls.revoke (hc : r.Controls mode h) {modes : Modes} (hrun : (modes.get mode).status.isRunning = true)
    (h' : Handle) : (r.revoke h' modes).2.Controls mode h := by
  obtain ⟨e, he, hm, ha⟩ := hc
  rcases revoke_cases h' modes r with ⟨err, hx⟩ | ⟨slots, e', hs, he', -, hstopped, hx⟩ <;> rw [hx]
  · exact ⟨e, he, hm, ha⟩
  · refine ⟨e, ?_, hm, ha⟩
    have hne : h' ≠ h := by
      rintro rfl
      obtain rfl : e = e' := Option.some.inj (he.symm.trans he')
      rw [hm, hrun] at hstopped
      cases hstopped ha
    rw [live?_freed hs he', if_neg hne, he]

theorem Controls.modeOf (hc : r.Controls mode h) : r.modeOf h = .ok mode := by
  obtain ⟨e, he, rfl, -⟩ := hc
  obtain ⟨slots, hs, hin⟩ := Option.bind_eq_some_iff.mp he
  simp only [Roster.modeOf, hs, hin]

/-- A handle for control can be used while no other is in use for control of its mode. -/
theorem Controls.enter {guards : List Guard} (hc : r.Controls mode h) (ha : Accounted r guards)
    (hout : ∀ g ∈ guards, g.controls mode = false) : (r.enter h true).1 = .ok ⟨h, mode, .control, true⟩ := by
  obtain ⟨e, he, rfl, haccess⟩ := hc
  rw [enter_of_idle he fun _ => ⟨haccess, (ha.idle_iff e.mode).mpr hout⟩, haccess]

end Roster

namespace ControlPlane

open Roster

variable {σ τ α : Type} {M : ControlPlane σ τ} {s : State σ τ} {r : Modes} {mode : Mode} {h : Handle}
  {guards : List Guard}

/-! ## Starts and stops -/

/-- A call for control that succeeds was made through a handle for control. -/
theorem controls_of_withMode {run : ModeState → Operation σ τ α} {a : α}
    (hok : (withMode h true run s).1 = .ok a) (hm : s.roster.modeOf h = .ok mode) : s.roster.Controls mode h := by
  unfold withMode withHandle at hok
  cases hx : s.roster.enter h true with
  | mk answer roster =>
    rw [hx] at hok
    cases answer with
    | error err => cases hok
    | ok g =>
      obtain rfl : g.mode = mode := Except.ok.inj ((modeOf_enter hx).symm.trans hm)
      obtain ⟨_, e, -, he, hc, rfl, -⟩ := enter_ok hx
      exact ⟨e, he, rfl, (hc rfl).1⟩

/-- A call through a handle that is granted runs, unless another caller holds the lock, and what it does to the
    modes and their surroundings is all that is done to them. -/
theorem withMode_granted {isControl : Bool} {g : Guard} (hx : (s.roster.enter h isControl).1 = .ok g)
    (hr : s.roster.modes = some r) (run : ModeState → Operation σ τ α) :
    s.roster.locked = true ∧ (withMode h isControl run s).1 = .error .resourceLockTimeout ∨
    ∃ s', s'.view = s.view ∧ (s'.roster.locked = false ∧ s'.roster.contended = s.roster.contended) ∧
      (withMode h isControl run s).1 = (run (r.get g.mode) s').1 ∧
      (withMode h isControl run s).2.view = (run (r.get g.mode) s').2.view := by
  unfold withMode withHandle
  cases hy : s.roster.enter h isControl with
  | mk answer roster =>
    rw [hy] at hx
    obtain rfl : answer = .ok g := hx
    obtain ⟨_, _, -, -, -, -, hroster⟩ := enter_ok hy
    have hmodes : roster.modes = s.roster.modes := by rw [hroster]
    have hsame : roster.locked = s.roster.locked := by rw [hroster]
    cases hlocked : s.roster.locked with
    | true =>
      left
      simp [lock, hsame, hlocked]
    | false =>
      have hcontended : roster.contended = s.roster.contended := by rw [hroster]
      have hlock : roster.lock = .ok r := by simp [lock, hsame, hlocked, hmodes, hr]
      refine .inr ⟨{ s with roster }, congrArg (·, s.env) hmodes, ⟨hsame.trans hlocked, hcontended⟩, ?_, ?_⟩
      · simp only [hlock]
      · simp only [hlock, State.view, modes_leave]

/-- A device that is taken down answers, or refuses by itself. -/
theorem takeDown_result (hlock : s.roster.lock = .ok r) (mode : Mode) :
    (M.takeDown mode s).1 = .ok () ∨ ∃ f, (M.takeDown mode s).1 = .error (.platform f) := by
  rw [(takeDown_of_lock hlock mode).1]
  unfold Link.stop
  split
  · exact .inl rfl
  · split
    · exact .inl rfl
    · split
      · exact .inl rfl
      · exact .inr ⟨_, rfl⟩

/-- A mode that runs is stopped through any handle for its control while nobody else uses one, unless
    another caller holds the lock, or takes it while the stop waits, or the platform refuses. -/
theorem stop_of_controls (ha : Accounted s.roster guards) (hout : ∀ g ∈ guards, g.controls mode = false)
    (hr : s.roster.modes = some r) (hrun : (r.get mode).status.isRunning = true) (hh : s.roster.Controls mode h) :
    (M.stop h s).1 = .ok () ∨
      (s.roster.locked = true ∨ s.roster.contended = true) ∧ (M.stop h s).1 = .error .resourceLockTimeout ∨
      ∃ f, (M.stop h s).1 = .error (.platform f) := by
  rcases withMode_granted (hh.enter ha hout) hr _ with ⟨hlocked, htimeout⟩ | ⟨s', hs', ⟨hlocked, hcontended⟩, hstop, -⟩
  · exact .inr (.inl ⟨.inl hlocked, htimeout⟩)
  · have hr' : s'.roster.modes = some r := (congrArg Prod.fst hs').trans hr
    have hstop : (M.stop h s).1 = _ := hstop
    rw [hstop, if_pos hrun]
    -- The event ahead of the teardown may cost sessions, but neither the modes nor the lock.
    have hlock := lock_prepareStop (M := M) (m := r.get mode) hr' hlocked
    rw [hcontended] at hlock
    cases hcontention : s.roster.contended with
    | true =>
      rw [hcontention, if_pos rfl] at hlock
      refine .inr (.inl ⟨.inr rfl, ?_⟩)
      simp only [takeDown, hlock]
    | false =>
      rw [hcontention, if_neg Bool.false_ne_true] at hlock
      rcases takeDown_result hlock (r.get mode).mode with hok | hrefused
      · exact .inl hok
      · exact .inr (.inr hrefused)

/-! ## Moves -/

theorem controls_revokeHandle (hh : s.roster.Controls mode h) (hr : s.roster.modes = some r)
    (hrun : (r.get mode).status.isRunning = true) (h' : Handle) : (revokeHandle h' s).2.roster.Controls mode h := by
  rcases roster_revokeHandle h' s with hx | ⟨r', hr', hx⟩ <;> rw [hx]
  · exact hh
  · obtain rfl : r = r' := Option.some.inj (hr.symm.trans hr')
    exact hh.revoke hrun h'

/-- A mode that runs after a move ran before it, or the move started it. -/
theorem Legal.started_or_running {m : ModeState} {mv : Move σ τ} {status : Status}
    (hl : M.Legal s mode m mv status) (hrun : status.isRunning = true) :
    m.status.isRunning = true ∨ ∃ h, s.roster.Controls mode h := by
  cases hl with
  | kept => exact .inl hrun
  | started hm hok => exact .inr ⟨_, controls_of_withMode hok hm⟩
  | connected _ hs => exact .inl (by rw [hs]; rfl)
  | fellBack _ hs => exact .inl (by rw [hs]; rfl)
  | stopped _ _ _ hs =>
    rcases hs with rfl | rfl <;> cases hrun
  | ended => cases hrun
  | stationEnded => cases hrun

/-- Modes that are there already are not set up again. -/
theorem roster_setUp_of_some (hr : s.roster.modes = some r) : (M.setUp s).2.roster = s.roster := by
  rcases roster_setUp (M := M) s with h | ⟨interfaces, h | ⟨hn, -⟩⟩
  · exact h
  · rcases setUp_cases M.memory interfaces s.roster with ⟨-, hsame⟩ | ⟨_, hn, -⟩
    · exact h.trans hsame
    · rw [hr] at hn
      cases hn
  · rw [hr] at hn
    cases hn

theorem commanded_setUp (hc : s.roster.Commanded) : (M.setUp s).2.roster.Commanded := by
  cases hr : s.roster.modes with
  | some r =>
    rw [roster_setUp_of_some hr]
    exact hc
  | none =>
    intro r' hr' mode hrun
    obtain ⟨interfaces, hi⟩ := modes_setUp_of_none hr hr'
    obtain ⟨_, _, hm⟩ := get_ofInterfaces? hi mode
    rw [hm] at hrun
    cases hrun

theorem commanded_dissolve (hc : s.roster.Commanded) : (M.dissolve s).2.roster.Commanded := by
  rw [roster_dissolve]
  rcases dissolve_cases s.roster with ⟨err, h⟩ | ⟨modes, h, -⟩ <;> rw [h]
  · exact hc
  · intro r hr
    cases hr

theorem commanded_step (ha : Accounted s.roster guards) (hfew : guards.length + 1 < 2 ^ 32)
    (hl : ∀ r, s.roster.modes = some r → r.Labelled) (hcons : ∀ r, s.roster.modes = some r → r.Consistent none)
    (hc : s.roster.Commanded) (mv : Move σ τ) : (M.step mv s).roster.Commanded := by
  by_cases hclerical : mv.isClerical = false
  · -- The table stays, so the handle that there was, or that the mode was started through, lives on.
    obtain ⟨hslots, hsome, -⟩ := untouched_step (M := M) ha hfew hclerical
    intro r' hr' mode hrun
    obtain ⟨r, hr⟩ : ∃ r, s.roster.modes = some r := by
      rw [← Option.isSome_iff_exists, ← hsome, hr']
      rfl
    obtain ⟨h, hh⟩ : ∃ h, s.roster.Controls mode h := by
      rcases (legal_step hl (hcons r hr) hr mv hr' mode).started_or_running hrun with hrun | hh
      · exact hc r hr mode hrun
      · exact hh
    exact ⟨h, hh.of_slots hslots⟩
  cases mv with
  | setUp => exact commanded_setUp hc
  | dissolve => exact commanded_dissolve hc
  | issue mode access =>
    intro r hr mode' hrun
    obtain ⟨h, hh⟩ := hc r ((modes_issue mode access s.roster).symm.trans hr) mode' hrun
    exact ⟨h, hh.issue mode access⟩
  | revoke h' =>
    intro r hr mode hrun
    have hr := (congrArg Prod.fst (revokeHandle_keeps h' s)).symm.trans hr
    obtain ⟨h, hh⟩ := hc r hr mode hrun
    exact ⟨h, controls_revokeHandle hh hr hrun h'⟩
  | _ => exact absurd rfl hclerical

/-! ## Runs -/

theorem Reach.commanded {env : Env σ} {store : τ} (hs : M.Reach (fun _ _ => True) (M.initial env store) s) :
    Accounted s.roster [] ∧ s.roster.Commanded := by
  induction hs with
  | refl => exact ⟨.empty rfl rfl, fun _ hr => by cases hr⟩
  | @step s mv hs _ ih =>
    obtain ⟨ha, hc⟩ := ih
    have hcons : ∀ r, s.roster.modes = some r → r.Consistent none := fun r hr => hs.consistent rfl hr
    exact ⟨(accounted_step ha (by decide) mv).1, commanded_step ha (by decide) (hs.labelled rfl) hcons hc mv⟩

/-- Handles that are revoked one after the other leave those for control of a mode that runs. -/
theorem run_revocations (hr : s.roster.modes = some r) (hrun : (r.get mode).status.isRunning = true)
    (hh : s.roster.Controls mode h) (handles : List Handle) :
    (M.run (handles.map .revoke) s).roster.modes = some r ∧ (M.run (handles.map .revoke) s).roster.Controls mode h := by
  induction handles generalizing s with
  | nil => exact ⟨hr, hh⟩
  | cons h' handles ih =>
    exact ih (s := M.step (.revoke h') s) ((congrArg Prod.fst (revokeHandle_keeps h' s)).trans hr)
      (controls_revokeHandle hh hr hrun h')

/-- Whatever was called and whatever the platform answered: a mode that is connecting or connected has a
    handle for its control. It keeps each of them whatever handles are revoked, and a stop through it then
    fails only if another caller holds the lock or takes it while the stop waits, or if the platform
    refuses. -/
theorem reach_stoppable {env : Env σ} {store : τ} (hs : M.Reach (fun _ _ => True) (M.initial env store) s)
    (hr : s.roster.modes = some r) (hrun : (r.get mode).status.isRunning = true) :
    (∃ h, s.roster.Controls mode h) ∧
    ∀ h, s.roster.Controls mode h → ∀ handles : List Handle,
      let s' := M.run (handles.map .revoke) s
      s'.roster.modes = some r ∧ s'.roster.Controls mode h ∧
        ((M.stop h s').1 = .ok () ∨
          (s'.roster.locked = true ∨ s'.roster.contended = true) ∧
            (M.stop h s').1 = .error .resourceLockTimeout ∨
          ∃ f, (M.stop h s').1 = .error (.platform f)) := by
  refine ⟨hs.commanded.2 r hr mode hrun, fun h hh handles => ?_⟩
  intro s'
  have hs' : M.Reach (fun _ _ => True) (M.initial env store) s' := hs.trans (reach_any _ s)
  obtain ⟨hr', hh'⟩ := run_revocations (M := M) hr hrun hh handles
  exact ⟨hr', hh', stop_of_controls hs'.commanded.1 nofun hr' hrun hh'⟩

end ControlPlane

/-- The normal mode has two handles for its control, and has lost its connection. -/
def Camera.spare {σ τ : Type} : List (ControlPlane.Move σ τ) :=
  [.setUp, .issue .normal .control, .issue .normal .control, .start Camera.normal (.given Camera.home),
    .event "wlan0" .stationConnected, .event "wlan0" .stationDisconnected]

open Simulation ControlPlane in
theorem Camera.spare_stoppable :
    let s := plane.run spare off
    ∃ r, s.roster.modes = some r ∧ r.normal.status = .connecting ∧ (r.get .normal).status.isRunning = true ∧
      (∃ h, s.roster.Controls .normal h) ∧
      ∀ h, s.roster.Controls .normal h → ∀ handles : List Handle,
        let s' := plane.run (handles.map .revoke) s
        s'.roster.modes = some r ∧ s'.roster.Controls .normal h ∧
          ((plane.stop h s').1 = .ok () ∨
            (s'.roster.locked = true ∨ s'.roster.contended = true) ∧
              (plane.stop h s').1 = .error .resourceLockTimeout ∨
            ∃ f, (plane.stop h s').1 = .error (.platform f)) := by
  intro s
  have hm : s.roster.modes.any (fun r => decide (r.normal.status = .connecting)) = true := by decide +kernel
  obtain ⟨r, hr, hd⟩ := (Option.any_eq_true _ _).mp hm
  have hstatus : r.normal.status = .connecting := of_decide_eq_true hd
  have hrun : (r.get .normal).status.isRunning = true := by
    show r.normal.status.isRunning = true
    rw [hstatus]
    rfl
  exact ⟨r, hr, hstatus, hrun, reach_stoppable (reach_any spare off) hr hrun⟩

end Connectivity
