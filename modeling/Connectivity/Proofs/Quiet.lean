/-
  Connectivity.Proofs.Quiet — a mode that was stopped stays quiet until it is started again.
  - `Stopped`: what a stop leaves behind; nothing is held, and the interface is down or going down.
  - `reaction_stopped`: such a mode answers any event without a call, a light or a notice, and at most
    comes to its end. `stopped_step`: no other move but its start changes that.
  - `reach_quiet`: so whatever comes after the stop, an event does what the other mode makes of it and
    no more.
-/

import Connectivity.Proofs.Deeds
import Connectivity.Proofs.Moves

namespace Connectivity

/-- A mode that was stopped. -/
structure ModeState.Stopped (m : ModeState) : Prop where
  status : m.status = .disconnecting ∨ m.status = .disconnected
  client : m.client = none
  address : m.address = .unspecified
  told : m.told = .disconnected

/-- The status stays, or a disconnection comes to its end. -/
def Status.Settles (s s' : Status) : Prop := s' = s ∨ s = .disconnecting ∧ s' = .disconnected

theorem Status.Settles.trans {s s' s'' : Status} (h : s.Settles s') (h' : s'.Settles s'') : s.Settles s'' := by
  rcases h with rfl | ⟨rfl, rfl⟩
  · exact h'
  · rcases h' with rfl | ⟨hs, -⟩
    · exact .inr ⟨rfl, rfl⟩
    · cases hs

namespace ModeState.Stopped

variable {m m' : ModeState}

theorem not_running (h : m.Stopped) : m.status.isRunning = false := by
  rcases h.status with hs | hs <;> rw [hs] <;> rfl

theorem standing (h : m.Stopped) : m.standing = .disconnected := by
  rcases h.status with hs | hs <;> simp [ModeState.standing, hs]

/-- Its callback knows already. -/
theorem refresh (h : m.Stopped) : m.refresh = (none, m) := by
  unfold ModeState.refresh
  rw [h.standing, h.told, if_pos rfl]

theorem surrendered (h : m.Stopped) : { m with client := none }.Stopped :=
  ⟨h.status, rfl, h.address, h.told⟩

theorem cleared (h : m.Stopped) : m.cleared.Stopped := ⟨h.status, rfl, rfl, h.told⟩

theorem listening (h : m.Stopped) (b : Bool) : { m with listening := b }.Stopped :=
  ⟨h.status, h.client, h.address, h.told⟩

end ModeState.Stopped

namespace ControlPlane

variable {σ τ : Type} (M : ControlPlane σ τ)

/-! ## Notices -/

/-- What a mode's callback is told after an event. -/
def news (name : String) (event : Event) (m : ModeState) (e : Env σ) : Option Standing :=
  if m.accepts name ∧ event ≠ .ifDownPre then
    (Dispatch.answer M.platform M.policy.retryNanos event m e).1.refresh.1
  else none

variable {M} {s : State σ τ}

theorem news_of_not_accepts {m : ModeState} {name : String} (h : m.accepts name = false) (event : Event)
    (e : Env σ) : M.news name event m e = none := by
  simp [news, h]

/-- What the callback of a mode is told, as notices. -/
def noticesOf (mode : Mode) (status? : Option Standing) : List Notice := (status?.map (⟨mode, ·⟩)).toList

theorem notices_tell {mode : Mode} {m : ModeState} (hm : s.mode? mode = some m) :
    (s.tell mode).notices = noticesOf mode m.refresh.1 ++ s.notices := by
  unfold State.tell
  rw [hm]
  simp only
  cases m.refresh.1 <;> rfl

theorem notices_react {r : Modes} (hr : s.roster.modes = some r) {event : Event} (he : event ≠ .ifDownPre)
    (name : String) (mode : Mode) :
    (M.react name event mode s).notices = noticesOf mode (M.news name event (r.get mode) s.env) ++ s.notices := by
  unfold react State.mode? news
  rw [hr]
  simp only [Option.map_some]
  by_cases ha : (r.get mode).accepts name = true
  · rw [if_pos ha, if_pos ⟨ha, he⟩]
    generalize Dispatch.answer M.platform M.policy.retryNanos event (r.get mode) s.env = x
    have hu : (s.update mode x).mode? mode = some x.1 := by
      simp [State.update, State.mode?, Roster.setMode, hr]
    exact notices_tell hu
  · rw [if_neg ha, if_neg (fun h => ha h.1)]
    rfl

theorem notices_giveBack (name : String) (mode : Mode) : (M.giveBack name mode s).notices = s.notices := by
  unfold giveBack
  (repeat' split) <;> rfl

theorem notices_receive {r : Modes} (hr : s.roster.modes = some r) (name : String) (event : Event) :
    (M.receive name event s).notices =
      noticesOf .accessPoint (M.news name event r.accessPoint (M.reaction name event r.normal s.env).2) ++
        (noticesOf .normal (M.news name event r.normal s.env) ++ s.notices) := by
  by_cases he : event = .ifDownPre
  · subst he
    have hnews (m : ModeState) (e : Env σ) : M.news name .ifDownPre m e = none := by simp [news]
    rw [hnews, hnews]
    unfold receive
    rw [notices_letThrough]
    exact (notices_giveBack name .accessPoint).trans (notices_giveBack name .normal)
  · have h1 : (M.react name event .normal s).view =
        (some { r with normal := (M.reaction name event r.normal s.env).1 },
          (M.reaction name event r.normal s.env).2) := view_react hr he name .normal
    have henv : (M.react name event .normal s).env = _ := congrArg Prod.snd h1
    rw [receive_eq_react he, notices_react (congrArg Prod.fst h1) he, henv, notices_react hr he]
    rfl

/-! ## Events -/

/-- A stopped mode does nothing about any event. -/
theorem reaction_stopped {m : ModeState} (h : m.Stopped) (name : String) (event : Event) (e : Env σ) :
    (M.reaction name event m e).1.Stopped ∧ m.status.Settles (M.reaction name event m e).1.status ∧
      (M.reaction name event m e).2 = e ∧ M.news name event m e = none := by
  by_cases ha : m.accepts name = true
  · have hs : m.status = .disconnecting := h.status.resolve_right (ModeState.accepts_iff.mp ha).1
    obtain ⟨hf, he⟩ : Dispatch.Fading event m (Dispatch.answer M.platform M.policy.retryNanos event m e).1 ∧
        (Dispatch.answer M.platform M.policy.retryNanos event m e).2 = e :=
      Dispatch.answer_ending _ event hs h.client
    have hstopped : (Dispatch.answer M.platform M.policy.retryNanos event m e).1.Stopped := by
      refine ⟨hf.status.imp_right And.left, hf.client, ?_, ?_⟩
      · rcases hf.address with ha | ha
        · exact ha.trans h.address
        · exact ha
      · exact (ModeState.told_of_fixed hf.fixed).trans h.told
    unfold reaction news
    rw [if_pos ha]
    by_cases hpre : event = .ifDownPre
    · rw [if_pos hpre, h.client, if_neg (fun hn => hn.2 hpre)]
      exact ⟨h, .inl rfl, rfl, rfl⟩
    · rw [if_neg hpre, if_pos ⟨ha, hpre⟩]
      dsimp only
      rw [hstopped.refresh]
      refine ⟨hstopped, ?_, he, rfl⟩
      rcases hf.status with hd | ⟨hd, -⟩
      · exact .inl (hd.trans hs.symm)
      · exact .inr ⟨hs, hd⟩
  · rw [reaction_of_not_accepts (eq_false_of_ne_true ha), news_of_not_accepts (eq_false_of_ne_true ha)]
    exact ⟨h, .inl rfl, rfl, rfl⟩

/-- Where one mode does nothing about an event, the other answers it alone. -/
theorem receive_alone {r : Modes} (hr : s.roster.modes = some r) {mode other : Mode} (ho : other ≠ mode)
    {name : String} {event : Event}
    (h : ∀ e, (M.reaction name event (r.get mode) e).2 = e ∧ M.news name event (r.get mode) e = none) :
    (M.receive name event s).env = (M.reaction name event (r.get other) s.env).2 ∧
      (M.receive name event s).notices =
        noticesOf other (M.news name event (r.get other) s.env) ++ s.notices := by
  have henv : (M.receive name event s).env = _ := congrArg Prod.snd (view_receive hr name event)
  have hboth : mode = .normal ∧ other = .accessPoint ∨ mode = .accessPoint ∧ other = .normal := by
    cases mode <;> cases other <;> simp_all
  rw [henv, notices_receive hr]
  rcases hboth with ⟨rfl, rfl⟩ | ⟨rfl, rfl⟩
  · obtain ⟨he, hn⟩ := h s.env
    have he : (M.reaction name event r.normal s.env).2 = s.env := he
    have hn : M.news name event r.normal s.env = none := hn
    rw [he, hn]
    exact ⟨rfl, rfl⟩
  · obtain ⟨he, hn⟩ := h (M.reaction name event r.normal s.env).2
    have he : (M.reaction name event r.accessPoint _).2 = _ := he
    have hn : M.news name event r.accessPoint _ = none := hn
    rw [he, hn]
    exact ⟨rfl, rfl⟩

/-- With one mode stopped, the other answers events alone. -/
theorem receive_stopped {r : Modes} (hr : s.roster.modes = some r) {mode other : Mode} (ho : other ≠ mode)
    (h : (r.get mode).Stopped) (name : String) (event : Event) :
    (M.receive name event s).env = (M.reaction name event (r.get other) s.env).2 ∧
      (M.receive name event s).notices =
        noticesOf other (M.news name event (r.get other) s.env) ++ s.notices :=
  receive_alone hr ho fun e => (reaction_stopped (M := M) h name event e).2.2

/-! ## Moves -/

variable (M) in
/-- Moves that neither start a mode nor end the modes. -/
def Unstarted (mode : Mode) (s : State σ τ) : Move σ τ → Prop
  | .start h source => s.roster.modeOf h = .ok mode → (M.start h source s).1 ≠ .ok ()
  | .dissolve => (M.dissolve s).1 ≠ .ok ()
  | _ => True

/-- Modes are there until they are dissolved. -/
theorem isSome_step {mode : Mode} {mv : Move σ τ} (hl : ∀ r, s.roster.modes = some r → r.Labelled)
    (hok : M.Unstarted mode s mv) (hs : s.roster.modes.isSome = true) :
    (M.step mv s).roster.modes.isSome = true := by
  by_cases hi : mv.isInner = true
  · exact (step_leads (M := M) hl hi).isSome hs
  · cases mv with
    | dissolve =>
      have h : (M.dissolve s).2 = s ∨ (M.dissolve s).1 = .ok () ∧ M.Leads false _ _ := dissolve_leads s
      rcases h with h | ⟨h, -⟩
      · have hstep : M.step .dissolve s = s := h
        rw [hstep]
        exact hs
      · exact absurd h hok
    | outside => exact hs
    | _ => exact absurd rfl hi

/-- A start of the mode that fails leaves it stopped, as does any start of the other. -/
theorem stopped_start {mode : Mode} {r r' : Modes} (hl : ∀ r, s.roster.modes = some r → r.Labelled)
    (hr : s.roster.modes = some r) (h : (r.get mode).Stopped) {hd : Handle} {source : ParameterSource}
    (hok : s.roster.modeOf hd = .ok mode → (M.start hd source s).1 ≠ .ok ())
    (hr' : (M.start hd source s).2.roster.modes = some r') :
    (r'.get mode).Stopped ∧ (r.get mode).status.Settles (r'.get mode).status := by
  rcases start_cases hl hd source with ⟨_, -, hv⟩ | ⟨mode₀, r₀, m, hm, hr₀, -, hv, hcases⟩
  · obtain rfl : r = r' := Option.some.inj ((hv.trans hr).symm.trans hr')
    exact ⟨h, .inl rfl⟩
  · obtain rfl : r = r₀ := Option.some.inj (hr.symm.trans hr₀)
    obtain rfl : r.set mode₀ m = r' := Option.some.inj (hv.symm.trans hr')
    rw [Modes.get_set]
    split
    · rename_i heq
      subst heq
      rcases hcases with ⟨-, rfl⟩ | ⟨hstarted, -⟩
      · exact ⟨h.cleared, .inl rfl⟩
      · exact absurd hstarted (hok hm)
    · exact ⟨h, .inl rfl⟩

/-- There is nothing more to stop. -/
theorem stopped_again {mode : Mode} {r r' : Modes} (hl : ∀ r, s.roster.modes = some r → r.Labelled)
    (hr : s.roster.modes = some r) (h : (r.get mode).Stopped) {hd : Handle}
    (hr' : (M.stop hd s).2.roster.modes = some r') :
    (r'.get mode).Stopped ∧ (r.get mode).status.Settles (r'.get mode).status := by
  have hkept {r₁ : Modes} (hsur : Surrendered r r₁) :
      (r₁.get mode).Stopped ∧ (r.get mode).status.Settles (r₁.get mode).status := by
    rcases hsur mode with hget | hget <;> rw [hget]
    · exact ⟨h, .inl rfl⟩
    · exact ⟨h.surrendered, .inl rfl⟩
  rcases modes_stop hl hr hd with ⟨_, r₁, -, hsur, hv⟩ | ⟨mode₀, r₁, _, _, -, hrun, hsur, -, -, hv⟩
  · obtain rfl : r₁ = r' := Option.some.inj (hv.symm.trans hr')
    exact hkept hsur
  · obtain rfl : r₁.set mode₀ _ = r' := Option.some.inj (hv.symm.trans hr')
    rw [Modes.get_set]
    split
    · rename_i heq
      rw [heq, h.not_running] at hrun
      cases hrun
    · exact hkept hsur

theorem stopped_step {mode : Mode} {mv : Move σ τ} {r : Modes} (hl : ∀ r, s.roster.modes = some r → r.Labelled)
    (hr : s.roster.modes = some r) (hok : M.Unstarted mode s mv) (h : (r.get mode).Stopped) :
    ∃ r', (M.step mv s).roster.modes = some r' ∧ (r'.get mode).Stopped ∧
      (r.get mode).status.Settles (r'.get mode).status := by
  have hsome := isSome_step hl hok (by rw [hr]; rfl)
  obtain ⟨r', hr'⟩ := Option.isSome_iff_exists.mp hsome
  refine ⟨r', hr', ?_⟩
  by_cases hcalm : mv.isCalm = true
  · obtain ⟨b, hb⟩ := calm_step (hl r hr) hr hcalm hr' mode
    rw [hb]
    exact ⟨h.listening b, .inl rfl⟩
  · cases mv with
    | start hd source => exact stopped_start hl hr h hok hr'
    | stop hd => exact stopped_again hl hr h hr'
    | event name event =>
      obtain ⟨r'', hr'', hget⟩ := modes_receive (M := M) hr name event
      obtain rfl : r'' = r' := Option.some.inj (hr''.symm.trans hr')
      obtain ⟨e, he⟩ := hget mode
      obtain ⟨hstopped, hsettles, -, -⟩ := reaction_stopped (M := M) h name event e
      rw [he]
      exact ⟨hstopped, hsettles⟩
    | _ => exact absurd rfl hcalm

/-! ## Runs -/

/-- What a stop that succeeds leaves behind. -/
theorem stopped_stop {r : Modes} (hl : ∀ r, s.roster.modes = some r → r.Labelled) (hr : s.roster.modes = some r)
    {h : Handle} {mode : Mode} (hm : s.roster.modeOf h = .ok mode) (hc : (r.get mode).Carried)
    (hok : (M.stop h s).1 = .ok ()) :
    ∃ r', (M.stop h s).2.roster.modes = some r' ∧ (r'.get mode).Stopped := by
  rcases modes_stop hl hr h with ⟨_, _, herr, -⟩ | ⟨mode₀, r₁, e, ⟨result, m', e'⟩, hm₀, hrun, hsur, hx, hres, hv⟩
  · rw [hok] at herr
    cases herr
  · obtain rfl : mode = mode₀ := Except.ok.inj (hm.symm.trans hm₀)
    obtain rfl : result = .ok () := hres.symm.trans hok
    refine ⟨_, hv, ?_⟩
    rw [Modes.get_set, if_pos rfl, ModeState.refresh_snd]
    rcases Link.stop_ok_fst _ hx with ⟨hn, -⟩ | ⟨hclient, -, haddress, hstatus⟩
    · have hsome := hc (Status.ne_of_isRunning hrun)
      rw [← hsur.carrier mode, hn] at hsome
      cases hsome
    · refine ⟨hstatus, hclient, haddress, ?_⟩
      rcases hstatus with hs | hs <;> simp [ModeState.standing, hs]

theorem reach_stopped {s₀ s' : State σ τ} (hn : s₀.roster.modes = none)
    (hs : M.Reach (fun _ _ => True) s₀ s) {mode : Mode} {r : Modes} (hr : s.roster.modes = some r)
    (h : (r.get mode).Stopped) (hs' : M.Reach (M.Unstarted mode) s s') :
    ∃ r', s'.roster.modes = some r' ∧ (r'.get mode).Stopped ∧
      (r.get mode).status.Settles (r'.get mode).status := by
  induction hs' with
  | refl => exact ⟨r, hr, h, .inl rfl⟩
  | @step s' mv hs' hok ih =>
    obtain ⟨r', hr', h', hsettles⟩ := ih
    have hl := (hs.trans (hs'.mono fun _ _ _ => trivial)).labelled hn
    obtain ⟨r'', hr'', h'', hsettles'⟩ := stopped_step hl hr' hok h'
    exact ⟨r'', hr'', h'', hsettles.trans hsettles'⟩

/-- After a stop that succeeded, and until the next start that does, the mode holds neither address
    nor session, its status changes at most once, to disconnected, and any event on any interface
    does what the other mode makes of it alone: not a call, a light or a notice more. -/
theorem reach_quiet {env : Env σ} {store : τ} {s₁ : State σ τ} {h : Handle} {mode other : Mode}
    (hs : M.Reach (fun _ _ => True) (M.initial env store) s) (hm : s.roster.modeOf h = .ok mode)
    (hok : (M.stop h s).1 = .ok ()) (hs₁ : M.Reach (M.Unstarted mode) (M.stop h s).2 s₁) (ho : other ≠ mode) :
    ∃ r, s₁.roster.modes = some r ∧ (r.get mode).Stopped ∧
      (∀ s₂, M.Reach (M.Unstarted mode) s₁ s₂ →
        ∃ r₂, s₂.roster.modes = some r₂ ∧ (r.get mode).status.Settles (r₂.get mode).status) ∧
      (∀ name event,
        (M.receive name event s₁).env = (M.reaction name event (r.get other) s₁.env).2 ∧
        (M.receive name event s₁).notices =
          noticesOf other (M.news name event (r.get other) s₁.env) ++ s₁.notices) ∧
      ∀ name event, (r.get other).accepts name = false →
        (M.receive name event s₁).env = s₁.env ∧ (M.receive name event s₁).notices = s₁.notices := by
  have hstop : M.Reach (fun _ _ => True) (M.initial env store) (M.stop h s).2 := .step (.stop h) hs trivial
  have hs₁' : M.Reach (fun _ _ => True) (M.initial env store) s₁ := hstop.trans (hs₁.mono fun _ _ _ => trivial)
  obtain ⟨r₀, hr₀⟩ : ∃ r, s.roster.modes = some r := by
    rcases stop_cases (hs.labelled rfl) h with ⟨_, herr, -⟩ | ⟨_, r, _, -, hr, -⟩ | ⟨_, r, _, _, _, -, hr, -⟩
    · rw [hok] at herr
      cases herr
    · exact ⟨r, hr⟩
    · exact ⟨r, hr⟩
  obtain ⟨r', hr', h'⟩ := stopped_stop (hs.labelled rfl) hr₀ hm (reach_carried rfl hs hr₀ mode) hok
  obtain ⟨r, hr, hstopped, -⟩ := reach_stopped rfl hstop hr' h' hs₁
  have halone := receive_stopped (M := M) hr ho hstopped
  refine ⟨r, hr, hstopped, fun s₂ hs₂ => ?_, halone, fun name event ha => ?_⟩
  · obtain ⟨r₂, hr₂, -, hsettles⟩ := reach_stopped rfl hs₁' hr hstopped hs₂
    exact ⟨r₂, hr₂, hsettles⟩
  · obtain ⟨henv, hnotices⟩ := halone name event
    rw [reaction_of_not_accepts ha] at henv
    rw [news_of_not_accepts ha] at hnotices
    exact ⟨henv, hnotices⟩

end ControlPlane

namespace Camera

open Simulation ControlPlane

/-- The radio is up, and stays up for a while after it is stopped. -/
def slow (b : Board) : Board :=
  { b with inner := { (b.inner.occur "wlan0" .stationConnected).2 with slowTeardown := true } }

theorem slow_quiet :
    let s := plane.run (join ++ [.outside slow id 0]) off
    let s₁ := plane.run [.event "wlan0" .stationConnected, .outside id id (7200 * second), .event "wlan0" .tick]
      (plane.stop normal s).2
    (plane.stop normal s).1 = .ok () ∧ (s₁.mode? .normal).map (·.status) = some .disconnecting ∧
    ∃ r, s₁.roster.modes = some r ∧ (r.get .normal).Stopped ∧
      (∀ s₂, plane.Reach (plane.Unstarted .normal) s₁ s₂ →
        ∃ r₂, s₂.roster.modes = some r₂ ∧ (r.get .normal).status.Settles (r₂.get .normal).status) ∧
      (∀ name event,
        (plane.receive name event s₁).env = (plane.reaction name event (r.get .accessPoint) s₁.env).2 ∧
        (plane.receive name event s₁).notices =
          noticesOf .accessPoint (plane.news name event (r.get .accessPoint) s₁.env) ++ s₁.notices) ∧
      ∀ name event, (r.get .accessPoint).accepts name = false →
        (plane.receive name event s₁).env = s₁.env ∧ (plane.receive name event s₁).notices = s₁.notices := by
  intro s s₁
  have hm : s.roster.modeOf normal = .ok .normal := by decide +kernel
  have hok : (plane.stop normal s).1 = .ok () := by decide +kernel
  have hs₁ : plane.Reach (plane.Unstarted .normal) (plane.stop normal s).2 s₁ :=
    reach_run ⟨trivial, trivial, trivial, trivial⟩
  refine ⟨hok, by decide +kernel, ?_⟩
  exact reach_quiet (reach_any _ off) hm hok hs₁ (by decide)

end Camera

end Connectivity
