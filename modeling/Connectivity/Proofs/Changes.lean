/-
  Connectivity.Proofs.Changes — what a move can do to the modes, said once.
  - `Turn`: everything that can become of one mode's state.
  - `Change`: one turn of one mode, or a question to the platform that no mode takes part in.
  - `step_leads`: every move but one from outside, or one that dissolves, leads from state to state
    by changes. So what every change keeps, every run keeps (`Reach.holds`).
-/

import Mathlib.Logic.Relation
import Connectivity.Proofs.LinkStates
import Connectivity.Proofs.Runs

namespace Connectivity

/-- Each mode's state says which mode it is. -/
def Modes.Labelled (r : Modes) : Prop := ∀ mode, (r.get mode).mode = mode

/-- The state of a mode after the event ahead of the teardown of an interface. -/
def ModeState.givenBack (m : ModeState) (name : String) : ModeState :=
  if m.accepts name then { m with client := none } else m

@[simp] theorem ModeState.givenBack_status (m : ModeState) (name : String) :
    (m.givenBack name).status = m.status := by
  unfold givenBack
  split <;> rfl

@[simp] theorem ModeState.givenBack_told (m : ModeState) (name : String) :
    (m.givenBack name).told = m.told := by
  unfold givenBack
  split <;> rfl

@[simp] theorem ModeState.givenBack_standing (m : ModeState) (name : String) :
    (m.givenBack name).standing = m.standing := by
  unfold givenBack
  split <;> rfl

@[simp] theorem ModeState.givenBack_carrierName? (m : ModeState) (name : String) :
    (m.givenBack name).carrierName? = m.carrierName? := by
  unfold givenBack
  split <;> rfl

def Modes.givenBack (r : Modes) (name : String) : Modes :=
  { r with normal := r.normal.givenBack name, accessPoint := r.accessPoint.givenBack name }

@[simp] theorem Modes.get_givenBack (r : Modes) (name : String) (mode : Mode) :
    (r.givenBack name).get mode = (r.get mode).givenBack name := by
  cases mode <;> rfl

namespace ControlPlane

variable {σ τ α : Type} (M : ControlPlane σ τ)

/-! ## Turns -/

/-- Everything that can become of one mode's state and its surroundings. `cap` says whether the
    platform runs a DHCP client of its own as the normal mode answers an event. -/
inductive Turn (cap : Bool) : ModeState × Env σ → ModeState × Env σ → Prop
  | listening (m : ModeState) (e : Env σ) (b : Bool) : Turn cap (m, e) ({ m with listening := b }, e)
  | answered {m : ModeState} {e : Env σ} (name : String) (event : Event) :
      m.accepts name = true → event ≠ .ifDownPre →
      (m.mode = .normal → M.platform.ownsDhcpClient e.platform = cap) →
      Turn cap (m, e)
        ((Dispatch.answer M.platform M.policy.retryNanos event m e).1.refresh.2,
          (Dispatch.answer M.platform M.policy.retryNanos event m e).2)
  | gaveBack {m : ModeState} {e : Env σ} {c : Client} (name : String) :
      m.accepts name = true → m.client = some c →
      Turn cap (m, e) ({ m with client := none }, Link.surrender M.platform c.session e)
  | notStarted {m m' : ModeState} {e e' : Env σ} {kind : InterfaceKind} {p : Parameters} {err : Error} :
      m.status = .disconnected → Link.start M.platform kind p m.cleared e = (.error err, m', e') →
      Turn cap (m, e) (m', e')
  | started {m m' : ModeState} {e e' : Env σ} {kind : InterfaceKind} {p : Parameters} :
      m.status = .disconnected → checkedKind m.mode p = .ok kind →
      Link.start M.platform kind p m.cleared e = (.ok (), m', e') →
      Turn cap (m, e) ({ m' with saved := some p, status := .connecting }.refresh.2, e')
  | stopped {m : ModeState} {e : Env σ} : m.status.isRunning = true →
      Turn cap (m, e)
        ((Link.stop M.platform m e).2.1.refresh.2, (Link.stop M.platform m e).2.2)

/-- An error light or a question to the platform, which no mode's state takes part in. -/
inductive Asked (P : Platform σ) : Env σ → Env σ → Prop
  | signal (e : Env σ) (x : Signal) (on : Bool) : x.light = .error → Asked P e (e.signal x on)
  | interfaces (e : Env σ) : Asked P e (e.perform P.interfaces).2
  | subscribe (e : Env σ) (name : String) : Asked P e (e.perform (P.subscribe name)).2
  | unsubscribe (e : Env σ) (name : String) : Asked P e (e.perform (P.unsubscribe name)).2
  | status (e : Env σ) (name : String) : Asked P e (e.perform (P.status name)).2
  | netstat (e : Env σ) (name : String) : Asked P e (e.perform (P.netstat name)).2
  | announceStop (e : Env σ) (name : String) : Asked P e (e.perform (P.announceStop name)).2

/-- One change of the modes and their surroundings. -/
inductive Change (cap : Bool) : Option Modes × Env σ → Option Modes × Env σ → Prop
  | turn {r : Modes} {e : Env σ} {x : ModeState × Env σ} (mode : Mode) :
      M.Turn cap (r.get mode, e) x → Change cap (some r, e) (some (r.set mode x.1), x.2)
  | asked {r? : Option Modes} {e e' : Env σ} : Asked M.platform e e' → Change cap (r?, e) (r?, e')
  | fresh {interfaces : List Interface} {r : Modes} {e : Env σ} :
      Modes.ofInterfaces? interfaces = some r → Change cap (none, e) (some r, e)

def Leads (cap : Bool) := Relation.ReflTransGen (M.Change cap)

/-- Whether the platform runs a DHCP client of its own. -/
def capability (s : State σ τ) : Bool := M.platform.ownsDhcpClient s.env.platform

/-- What changes act on. -/
def State.view (s : State σ τ) : Option Modes × Env σ := (s.roster.modes, s.env)

/-! ## Labels -/

variable {M} {cap : Bool}

theorem Turn.mode_eq {x y : ModeState × Env σ} (h : M.Turn cap x y) : y.1.mode = x.1.mode := by
  cases h with
  | listening => rfl
  | @answered m e _ event =>
    have h := ModeState.mode_of_fixed (Dispatch.fixed_answer M.platform M.policy.retryNanos event m e)
    rw [ModeState.refresh_snd]
    exact h
  | gaveBack => rfl
  | notStarted _ hs =>
    rw [Link.start_error _ hs]
    rfl
  | started _ _ hs =>
    obtain ⟨i, -, rfl⟩ := Link.start_ok _ hs
    rw [ModeState.refresh_snd]
    rfl
  | @stopped m e =>
    have h := ModeState.mode_of_fixed (Link.fixed_stop M.platform m e)
    rw [ModeState.refresh_snd]
    exact h

theorem labelled_set {r : Modes} (hr : r.Labelled) {mode : Mode} {m : ModeState} (hm : m.mode = mode) :
    (r.set mode m).Labelled := by
  intro mode'
  rw [Modes.get_set]
  split
  · rename_i h
    rw [hm, h]
  · exact hr mode'

/-- A mode that was set up has interfaces and nothing else. -/
theorem get_ofInterfaces? {interfaces : List Interface} {r : Modes}
    (h : Modes.ofInterfaces? interfaces = some r) (mode : Mode) :
    ∃ ethernet wifi, r.get mode = { mode, ethernet, wifi } := by
  unfold Modes.ofInterfaces? at h
  simp only at h
  split at h
  · cases h
  · cases h
    cases mode <;> exact ⟨_, _, rfl⟩

theorem labelled_ofInterfaces? {interfaces : List Interface} {r : Modes}
    (h : Modes.ofInterfaces? interfaces = some r) : r.Labelled := by
  intro mode
  obtain ⟨_, _, hm⟩ := get_ofInterfaces? h mode
  rw [hm]

theorem Change.labelled {v v' : Option Modes × Env σ} (h : M.Change cap v v')
    (hv : ∀ r, v.1 = some r → r.Labelled) : ∀ r, v'.1 = some r → r.Labelled := by
  intro r' hr'
  cases h with
  | @turn r _ _ mode ht =>
    cases hr'
    exact labelled_set (hv r rfl) (ht.mode_eq.trans (hv r rfl mode))
  | asked => exact hv r' hr'
  | fresh hi =>
    cases hr'
    exact labelled_ofInterfaces? hi

theorem Leads.labelled {v v' : Option Modes × Env σ} (h : M.Leads cap v v')
    (hv : ∀ r, v.1 = some r → r.Labelled) : ∀ r, v'.1 = some r → r.Labelled := by
  induction h with
  | refl => exact hv
  | tail _ hc ih => exact hc.labelled ih

theorem Leads.isSome {v v' : Option Modes × Env σ} (h : M.Leads cap v v') (hv : v.1.isSome) : v'.1.isSome := by
  induction h with
  | refl => exact hv
  | tail _ hc ih =>
    cases hc with
    | turn => rfl
    | asked => exact ih
    | fresh => rfl

/-! ## Events -/

theorem view_update {s : State σ τ} {r : Modes} (hr : s.roster.modes = some r) (mode : Mode)
    (x : ModeState × Env σ) : (s.update mode x).view = (some (r.set mode x.1), x.2) := by
  simp [State.update, State.view, Roster.setMode, hr]

theorem view_tell {s : State σ τ} {r : Modes} (hr : s.roster.modes = some r) (mode : Mode) :
    (s.tell mode).view = (some (r.set mode (r.get mode).refresh.2), s.env) := by
  simp [State.tell, State.mode?, State.view, Roster.setMode, hr]

/-- A mode takes a turn and tells its callback. -/
theorem view_tell_update {s : State σ τ} {r : Modes} (hr : s.roster.modes = some r) (mode : Mode)
    (x : ModeState × Env σ) : ((s.update mode x).tell mode).view = (some (r.set mode x.1.refresh.2), x.2) := by
  have hu : (s.update mode x).roster.modes = some (r.set mode x.1) := congrArg Prod.fst (view_update hr mode x)
  rw [view_tell hu, Modes.get_set, if_pos rfl, Modes.set_set]
  rfl

theorem react_leads {s : State σ τ} {name : String} {event : Event} (mode : Mode) (he : event ≠ .ifDownPre)
    (hc : ∀ r, s.roster.modes = some r → (r.get mode).mode = .normal → M.capability s = cap) :
    M.Leads cap s.view (M.react name event mode s).view := by
  unfold react State.mode?
  cases hr : s.roster.modes with
  | none => exact .refl
  | some r =>
    simp only [Option.map_some]
    split
    · rename_i ha
      rw [view_tell_update hr, State.view, hr]
      exact .single (.turn mode (.answered name event ha he (hc r hr)))
    · exact .refl

theorem giveBack_leads (s : State σ τ) (name : String) (mode : Mode) :
    M.Leads cap s.view (M.giveBack name mode s).view := by
  unfold giveBack State.mode?
  cases hr : s.roster.modes with
  | none => exact .refl
  | some r =>
    simp only [Option.map_some]
    split
    · rename_i ha
      split
      · rename_i c hc
        rw [view_update hr, State.view, hr]
        exact .single (.turn mode (.gaveBack name ha hc))
      · exact .refl
    · exact .refl

theorem receive_eq_react {event : Event} (he : event ≠ .ifDownPre) (name : String) (s : State σ τ) :
    M.receive name event s = M.react name event .accessPoint (M.react name event .normal s) := by
  cases event <;> first | rfl | exact absurd rfl he

@[simp] theorem view_letThrough (name : String) (s : State σ τ) : (letThrough name s).view = s.view := by
  simp only [State.view, roster_letThrough, env_letThrough]

/-- The event ahead of a teardown asks nothing about the capability. -/
theorem receive_ifDownPre_leads (s : State σ τ) (name : String) :
    M.Leads cap s.view (M.receive name .ifDownPre s).view := by
  unfold receive
  rw [view_letThrough]
  exact (giveBack_leads s name .normal).trans (giveBack_leads _ name .accessPoint)

theorem receive_leads {s : State σ τ} (hl : ∀ r, s.roster.modes = some r → r.Labelled) (name : String)
    (event : Event) : M.Leads (M.capability s) s.view (M.receive name event s).view := by
  by_cases he : event = .ifDownPre
  · subst he
    exact receive_ifDownPre_leads s name
  · rw [receive_eq_react he]
    -- The normal mode answers first, while the platform is as the event found it.
    have h1 : M.Leads (M.capability s) s.view (M.react name event .normal s).view :=
      react_leads .normal he fun _ _ _ => rfl
    refine h1.trans (react_leads .accessPoint he fun r hr hm => ?_)
    rw [Leads.labelled h1 hl r hr .accessPoint] at hm
    cases hm

theorem roster_giveBack (s : State σ τ) (name : String) (mode : Mode) :
    (M.giveBack name mode s).roster =
      { s.roster with modes := s.roster.modes.map fun r => r.set mode ((r.get mode).givenBack name) } := by
  unfold giveBack State.mode? ModeState.givenBack
  cases hr : s.roster.modes with
  | none =>
    simp only [Option.map_none]
    rw [← hr]
  | some r =>
    simp only [Option.map_some]
    split
    · split
      · simp [State.update, Roster.setMode, hr]
      · rename_i hc
        have hm : { r.get mode with client := none } = r.get mode := by rw [← hc]
        rw [hm, Modes.set_get, ← hr]
    · rw [Modes.set_get, ← hr]

theorem roster_receive_ifDownPre (s : State σ τ) (name : String) :
    (M.receive name .ifDownPre s).roster =
      { s.roster with modes := s.roster.modes.map (·.givenBack name) } := by
  unfold receive
  rw [roster_letThrough, roster_giveBack, roster_giveBack]
  cases s.roster.modes <;> rfl

/-! ## Calls -/

/-- A call with the state of a handle's mode is refused and changes no mode, or it runs. The guard
    taken and given back changes none either. -/
theorem withMode_cases (h : Handle) (isControl : Bool) (run : ModeState → Operation σ τ α) (s : State σ τ) :
    (∃ err, (withMode h isControl run s).1 = .error err ∧
      (withMode h isControl run s).2.view = s.view) ∨
    ∃ mode r s', s.roster.modeOf h = .ok mode ∧ s.roster.modes = some r ∧ s'.view = s.view ∧
      (s'.roster.locked = false ∧ s'.roster.contended = s.roster.contended) ∧
      (withMode h isControl run s).1 = (run (r.get mode) s').1 ∧
      (withMode h isControl run s).2.view = (run (r.get mode) s').2.view := by
  unfold withMode withHandle
  have hmodes := Roster.modes_enter h isControl s.roster
  have hcontended := Roster.contended_enter h isControl s.roster
  cases hx : s.roster.enter h isControl with
  | mk result roster =>
    cases result with
    | error err => exact .inl ⟨err, rfl, rfl⟩
    | ok g =>
      rw [hx] at hmodes hcontended
      have hv : ({ s with roster := roster } : State σ τ).view = s.view := congrArg (·, s.env) hmodes
      cases hl : roster.lock with
      | error err =>
        refine .inl ⟨err, ?_, ?_⟩
        · simp only [hl]
        · simp only [hl, State.view, Roster.modes_leave]
          exact hv
      | ok r =>
        obtain ⟨hlocked, hr⟩ := Roster.lock_eq_ok hl
        have hmode := Roster.modeOf_enter hx
        refine .inr ⟨g.mode, r, { s with roster }, hmode, hmodes ▸ hr, hv, ⟨hlocked, hcontended⟩, ?_, ?_⟩
        · simp only [hl]
        · simp only [hl, State.view, Roster.modes_leave]

theorem withMode_leads {h : Handle} {isControl : Bool} {run : ModeState → Operation σ τ α} {s : State σ τ}
    (hrun : ∀ (mode : Mode) (r : Modes) (s' : State σ τ),
      s.roster.modes = some r → s'.roster.modes = some r → M.Leads cap s'.view (run (r.get mode) s').2.view) :
    M.Leads cap s.view (withMode h isControl run s).2.view := by
  rcases withMode_cases h isControl run s with ⟨_, -, hv⟩ | ⟨mode, r, s', -, hr, hs', -, -, hv⟩
  · rw [hv]
    exact .refl
  · rw [hv, ← hs']
    exact hrun mode r s' hr ((congrArg Prod.fst hs').trans hr)

theorem unsubscribeAll_leads (r? : Option Modes) (names : List String) (e : Env σ) :
    M.Leads cap (r?, e) (r?, M.unsubscribeAll names e) := by
  induction names generalizing e with
  | nil => exact .refl
  | cons name names ih => exact (Relation.ReflTransGen.single (.asked (.unsubscribe e name))).trans (ih _)

theorem subscribeAll_leads (r? : Option Modes) (done names : List String) (e : Env σ) :
    M.Leads cap (r?, e) (r?, (M.subscribeAll done names e).2) := by
  induction names generalizing done e with
  | nil => exact .refl
  | cons name names ih =>
    have h1 : M.Leads cap (r?, e) (r?, (e.perform (M.platform.subscribe name)).2) :=
      .single (.asked (.subscribe e name))
    unfold subscribeAll
    generalize e.perform (M.platform.subscribe name) = x at h1 ⊢
    obtain ⟨_ | _, e'⟩ := x
    · exact h1.trans (unsubscribeAll_leads r? done e')
    · exact h1.trans (ih _ e')

theorem setUp_leads (s : State σ τ) : M.Leads cap s.view (M.setUp s).2.view := by
  have h1 : M.Leads cap s.view (s.roster.modes, (s.env.perform M.platform.interfaces).2) :=
    .single (.asked (.interfaces s.env))
  unfold setUp
  generalize s.env.perform M.platform.interfaces = x at h1 ⊢
  obtain ⟨err | interfaces, e⟩ := x
  · exact h1
  simp only
  split
  · rename_i hs
    rw [Roster.setUp_error hs]
    exact h1
  · rename_i hs
    rw [Roster.setUp_false hs]
    exact h1
  · rename_i roster hs
    obtain ⟨hn, r, hi, hr⟩ := Roster.setUp_true hs
    rw [hn] at h1
    have h2 : M.Leads cap s.view (some r, e) := h1.tail (.fresh hi)
    have h3 : ∀ r?, M.Leads cap (r?, e) (r?, (M.subscribeAll [] (interfaces.map (·.name)) e).2) :=
      fun r? => subscribeAll_leads r? [] _ e
    generalize M.subscribeAll [] (interfaces.map (·.name)) e = y at h3 ⊢
    obtain ⟨err | _, e'⟩ := y
    · simp only
      split
      · rename_i hd
        rw [Roster.dissolve_error hd]
        simp only [State.view, hr]
        exact h2.trans (h3 _)
      · rename_i hd
        simp only [State.view, (Roster.dissolve_ok hd).2]
        exact h1.trans (h3 _)
    · simp only [State.view, hr]
      exact h2.trans (h3 _)

/-! ## Start -/

theorem storedParameters_keeps (mode : Mode) (s : State σ τ) :
    (M.storedParameters mode s).2.roster = s.roster ∧ (M.storedParameters mode s).2.env = s.env := by
  unfold storedParameters
  split <;> exact ⟨rfl, rfl⟩

theorem resolve_leads (m : ModeState) (source : ParameterSource) (s : State σ τ) :
    (M.resolve m source s).2.roster = s.roster ∧ M.Leads cap s.view (M.resolve m source s).2.view := by
  have hsignal (s : State σ τ) : M.Leads cap s.view (s.signal .errorNoConnectInfo true).view :=
    .single (.asked (.signal s.env _ _ rfl))
  unfold resolve
  cases source with
  | given p => exact ⟨rfl, .refl⟩
  | lastSaved =>
    simp only
    split
    · exact ⟨rfl, .refl⟩
    · exact ⟨rfl, hsignal s⟩
  | storage =>
    obtain ⟨hr, he⟩ := storedParameters_keeps (M := M) m.mode s
    have hv : (M.storedParameters m.mode s).2.view = s.view := by
      simp only [State.view, hr, he]
    simp only
    split
    · rename_i s' hs
      rw [hs] at hr hv
      exact ⟨hr, hv ▸ hsignal s'⟩
    · rename_i result s' _ hs
      rw [hs] at hr hv
      exact ⟨hr, hv ▸ .refl⟩

theorem bringUp_turn {s : State σ τ} {r : Modes} (hr : s.roster.modes = some r) {mode : Mode}
    (hm : (r.get mode).mode = mode) (hd : (r.get mode).status = .disconnected) {kind : InterfaceKind}
    {p : Parameters} (hk : checkedKind (r.get mode).mode p = .ok kind) :
    ∃ x, M.Turn cap (r.get mode, s.env) x ∧
      (M.bringUp (r.get mode) kind p s).2.view = (some (r.set mode x.1), x.2) := by
  unfold bringUp
  split
  · rename_i m' e' hs
    have hm' : m'.mode = mode := by
      rw [Link.start_error _ hs]
      exact hm
    refine ⟨_, .notStarted hd hs, ?_⟩
    rw [hm', view_update hr]
  · rename_i m' e' hs
    have hm' : m'.mode = mode := by
      obtain ⟨i, -, hm'⟩ := Link.start_ok _ hs
      rw [hm']
      exact hm
    refine ⟨_, .started hd hk hs, ?_⟩
    simp only
    rw [hm', view_tell_update hr]

theorem start_leads {s : State σ τ} (hl : ∀ r, s.roster.modes = some r → r.Labelled) (h : Handle)
    (source : ParameterSource) : M.Leads cap s.view (M.start h source s).2.view := by
  refine withMode_leads fun mode r s' hr₀ hr => ?_
  have hm : (r.get mode).mode = mode := hl r hr₀ mode
  split
  · exact .refl
  · rename_i hd
    obtain ⟨hroster, h1⟩ : _ ∧ M.Leads cap s'.view _ := resolve_leads (r.get mode) source s'
    split
    · rename_i hs
      rw [hs] at h1
      exact h1
    · rename_i p s'' hs
      rw [hs] at hroster h1
      split
      · exact h1.tail (.asked (.signal s''.env _ _ rfl))
      · rename_i kind hk
        have hr'' : s''.roster.modes = some r := (congrArg Roster.modes hroster).trans hr
        have hv'' : s''.view = (some r, s''.env) := congrArg (·, s''.env) hr''
        obtain ⟨x, ht, hv⟩ := bringUp_turn hr'' hm (Decidable.not_not.mp hd) hk
        rw [hv]
        refine h1.tail ?_
        rw [hv'']
        exact .turn mode ht

/-! ## Stop -/

/-- Whether the event ahead of an announced teardown arrives in time. -/
def hears (M : ControlPlane σ τ) (name : String) (e : Env σ) : Bool :=
  match (M.platform.announceStop name e.platform).1 with
  | .ok heard => heard
  | .error _ => false

theorem announceStop_eq (name : String) (s : State σ τ) :
    M.announceStop name s =
      let s' := { s with env := (s.env.perform (M.platform.announceStop name)).2 }
      if M.hears name s.env then M.receive name .ifDownPre s' else s' := by
  unfold announceStop
  generalize hx : s.env.perform (M.platform.announceStop name) = x
  obtain ⟨answer, e⟩ := x
  have ha : (M.platform.announceStop name s.env.platform).1 = answer := congrArg Prod.fst hx
  obtain _ | _ | _ := answer <;> simp [hears, ha]

theorem announceStop_leads (name : String) (s : State σ τ) :
    M.Leads cap s.view (M.announceStop name s).view := by
  have h1 : M.Leads cap s.view (s.roster.modes, (s.env.perform (M.platform.announceStop name)).2) :=
    .single (.asked (.announceStop s.env name))
  rw [announceStop_eq]
  generalize (s.env.perform (M.platform.announceStop name)).2 = e at h1 ⊢
  simp only
  split
  · exact h1.trans (receive_ifDownPre_leads { s with env := e } name)
  · exact h1

theorem roster_announceStop (name : String) (s : State σ τ) :
    (M.announceStop name s).roster =
      if M.hears name s.env then { s.roster with modes := s.roster.modes.map (·.givenBack name) }
      else s.roster := by
  rw [announceStop_eq]
  simp only
  split
  · rw [roster_receive_ifDownPre]
  · rfl

/-! ### What a stop waits for -/

theorem giveBack_latches (name : String) (mode : Mode) (s : State σ τ) (latches : Mode → Latch) :
    M.giveBack name mode { s with latches } = { M.giveBack name mode s with latches } := by
  unfold giveBack
  have hmode : State.mode? { s with latches } mode = s.mode? mode := rfl
  rw [hmode]
  cases s.mode? mode with
  | none => rfl
  | some m =>
    simp only
    split
    · cases m.client <;> rfl
    · rfl

theorem letThrough_latches (name : String) (s : State σ τ) (latches : Mode → Latch) :
    ∃ latches', letThrough name { s with latches } = { letThrough name s with latches := latches' } := by
  unfold letThrough
  cases s.roster.modes <;> exact ⟨_, rfl⟩

theorem receive_ifDownPre_latches (name : String) (s : State σ τ) (latches : Mode → Latch) :
    ∃ latches', M.receive name .ifDownPre { s with latches } =
      { M.receive name .ifDownPre s with latches := latches' } := by
  have hnormal := giveBack_latches (M := M) name .normal s latches
  have hboth := giveBack_latches (M := M) name .accessPoint (M.giveBack name .normal s) latches
  rw [← hnormal] at hboth
  unfold receive
  rw [hboth]
  exact letThrough_latches name _ latches

/-- How the latches stand matters to nothing but the latches. -/
theorem announceStop_latches (name : String) (s : State σ τ) (latches : Mode → Latch) :
    ∃ latches', M.announceStop name { s with latches } = { M.announceStop name s with latches := latches' } := by
  rw [announceStop_eq, announceStop_eq]
  simp only
  generalize (s.env.perform (M.platform.announceStop name)).2 = env
  split
  · exact receive_ifDownPre_latches name { s with env } latches
  · exact ⟨latches, rfl⟩

variable (M) in
/-- The state in which a stop takes an announced interface down, if nobody else has the lock. -/
def announced (m : ModeState) (s : State σ τ) : State σ τ :=
  match m.carrierName? with
  | some name => M.announceStop name s
  | none => s

/-- Besides what the announcement does, the latches are used and the lock is given up. -/
theorem prepareStop_eq (m : ModeState) (s : State σ τ) :
    ∃ latches, M.prepareStop m s = { M.announced m s with roster := (M.announced m s).roster.yield, latches } := by
  unfold prepareStop announced
  cases m.carrierName? with
  | none => exact ⟨_, rfl⟩
  | some name =>
    obtain ⟨latches, hlatches⟩ := announceStop_latches (M := M) name s (s.rearm m.mode).latches
    have hrearm : M.announceStop name (s.rearm m.mode) = { M.announceStop name s with latches } := hlatches
    simp only [releaseBeforeStop, State.await, hrearm]
    exact ⟨_, rfl⟩

theorem roster_prepareStop (m : ModeState) (s : State σ τ) :
    (M.prepareStop m s).roster = (M.announced m s).roster.yield := by
  obtain ⟨latches, h⟩ := prepareStop_eq (M := M) m s
  rw [h]

theorem env_prepareStop (m : ModeState) (s : State σ τ) : (M.prepareStop m s).env = (M.announced m s).env := by
  obtain ⟨latches, h⟩ := prepareStop_eq (M := M) m s
  rw [h]

theorem store_prepareStop (m : ModeState) (s : State σ τ) : (M.prepareStop m s).store = (M.announced m s).store := by
  obtain ⟨latches, h⟩ := prepareStop_eq (M := M) m s
  rw [h]

theorem notices_prepareStop (m : ModeState) (s : State σ τ) :
    (M.prepareStop m s).notices = (M.announced m s).notices := by
  obtain ⟨latches, h⟩ := prepareStop_eq (M := M) m s
  rw [h]

theorem view_prepareStop (m : ModeState) (s : State σ τ) : (M.prepareStop m s).view = (M.announced m s).view := by
  rw [State.view, roster_prepareStop, env_prepareStop, Roster.modes_yield]
  rfl

theorem announced_leads (m : ModeState) (s : State σ τ) : M.Leads cap s.view (M.announced m s).view := by
  unfold announced
  split
  · exact announceStop_leads _ s
  · exact .refl

variable (M) in
/-- The interface of a mode, if the event ahead of its teardown arrives when a stop announces it. -/
def heard? (m : ModeState) (e : Env σ) : Option String := m.carrierName?.filter (fun name => M.hears name e)

theorem roster_announced (m : ModeState) (s : State σ τ) :
    (M.announced m s).roster =
      { s.roster with
        modes := s.roster.modes.map fun r => (M.heard? m s.env).elim r r.givenBack } := by
  unfold announced heard?
  cases m.carrierName? with
  | none => simp
  | some name =>
    simp only [Option.filter_some]
    rw [roster_announceStop]
    split <;> simp

/-- The second time that a stop asks for the lock it finds what the announcement left of the modes, unless another
    caller was waiting for the lock. -/
theorem lock_prepareStop {m : ModeState} {s : State σ τ} {r : Modes} (hr : s.roster.modes = some r)
    (hfree : s.roster.locked = false) :
    (M.prepareStop m s).roster.lock =
      if s.roster.contended then .error .resourceLockTimeout
      else .ok ((M.heard? m s.env).elim r r.givenBack) := by
  have hroster := roster_announced (M := M) m s
  rw [hr, Option.map_some] at hroster
  rw [roster_prepareStop, hroster]
  cases hcontended : s.roster.contended with
  | true => exact Roster.lock_yield_of_contended hcontended
  | false => simp [Roster.yield, Roster.lock, hfree, hcontended]

/-! ### Taking down -/

theorem takeDown_of_lock {s : State σ τ} {r : Modes} (hl : s.roster.lock = .ok r) (mode : Mode) :
    (M.takeDown mode s).1 = (Link.stop M.platform (r.get mode) s.env).1 ∧
      (M.takeDown mode s).2.view =
        (some (r.set mode (Link.stop M.platform (r.get mode) s.env).2.1.refresh.2),
          (Link.stop M.platform (r.get mode) s.env).2.2) := by
  unfold takeDown
  rw [hl]
  exact ⟨rfl, view_tell_update (Roster.lock_eq_ok hl).2 mode _⟩

theorem takeDown_leads {s : State σ τ} {r : Modes} (hr : s.roster.modes = some r) {mode : Mode}
    (hm : (r.get mode).status.isRunning = true) : M.Leads cap s.view (M.takeDown mode s).2.view := by
  cases hl : s.roster.lock with
  | error err =>
    unfold takeDown
    rw [hl]
    exact .refl
  | ok r' =>
    obtain rfl : r = r' := Option.some.inj (hr.symm.trans (Roster.lock_eq_ok hl).2)
    rw [(takeDown_of_lock hl mode).2, State.view, hr]
    exact .single (.turn mode (.stopped hm))

/-- A mode runs on while its stop is being prepared. -/
theorem isRunning_announced {s : State σ τ} {r : Modes} (hr : s.roster.modes = some r) {mode : Mode}
    (hrun : (r.get mode).status.isRunning = true) (m : ModeState) :
    ∃ r', (M.announced m s).roster.modes = some r' ∧ (r'.get mode).status.isRunning = true := by
  rw [roster_announced, hr]
  refine ⟨_, rfl, ?_⟩
  cases M.heard? m s.env with
  | none => exact hrun
  | some name => simpa using hrun

theorem stop_leads {s : State σ τ} (hl : ∀ r, s.roster.modes = some r → r.Labelled) (h : Handle) :
    M.Leads cap s.view (M.stop h s).2.view := by
  refine withMode_leads fun mode r s' hr₀ hr => ?_
  have hm : (r.get mode).mode = mode := hl r hr₀ mode
  split
  · rename_i hrun
    rw [hm]
    obtain ⟨r', hr', hrun'⟩ := isRunning_announced (M := M) hr hrun (r.get mode)
    have hprepared : (M.prepareStop (r.get mode) s').roster.modes = some r' := by
      rw [roster_prepareStop, Roster.modes_yield, hr']
    refine (announced_leads (r.get mode) s').trans ?_
    rw [← view_prepareStop]
    exact takeDown_leads hprepared hrun'
  · exact .refl

/-! ## Other calls -/

theorem listening_leads {s : State σ τ} {r : Modes} (hr : s.roster.modes = some r) {mode : Mode}
    (hm : (r.get mode).mode = mode) (b : Bool) :
    M.Leads cap s.view (s.update (r.get mode).mode ({ r.get mode with listening := b }, s.env)).view := by
  generalize hget : r.get mode = m at hm ⊢
  subst hm
  rw [view_update hr, State.view, hr]
  refine .single (.turn m.mode ?_)
  rw [hget]
  exact .listening m s.env b

theorem listen_leads {s : State σ τ} (hl : ∀ r, s.roster.modes = some r → r.Labelled) (h : Handle) :
    M.Leads cap s.view (listen h s).2.view := by
  refine withMode_leads fun mode r s' hr₀ hr => ?_
  split
  · exact .refl
  · exact listening_leads hr (hl r hr₀ mode) true

theorem unlisten_leads {s : State σ τ} (hl : ∀ r, s.roster.modes = some r → r.Labelled) (h : Handle) :
    M.Leads cap s.view (unlisten h s).2.view := by
  refine withMode_leads fun mode r s' hr₀ hr => ?_
  split
  · exact listening_leads hr (hl r hr₀ mode) false
  · exact .refl

theorem rssi_leads (h : Handle) (s : State σ τ) : M.Leads cap s.view (M.rssi h s).2.view := by
  refine withMode_leads fun mode r s' _ _ => ?_
  split
  · rename_i name _ _
    have h1 : M.Leads cap s'.view (s'.roster.modes, (s'.env.perform (M.platform.status name)).2) :=
      .single (.asked (.status s'.env name))
    split <;> rename_i hx <;> rw [hx] at h1 <;> exact h1
  · exact .refl

theorem netstat_leads (h : Handle) (s : State σ τ) : M.Leads cap s.view (M.netstat h s).2.view := by
  refine withMode_leads fun mode r s' _ _ => ?_
  split
  · exact .refl
  · rename_i name _
    have h1 : M.Leads cap s'.view (s'.roster.modes, (s'.env.perform (M.platform.netstat name)).2) :=
      .single (.asked (.netstat s'.env name))
    split <;> rename_i hx <;> rw [hx] at h1 <;> exact h1

/-- Parameters are saved in the store and nowhere else. -/
theorem saveParameters_frame (mask : Mask) (p : Parameters) (s : State σ τ) :
    (M.saveParameters mask p s).2 = { s with store := (M.saveParameters mask p s).2.store } := by
  unfold saveParameters
  (repeat' split) <;> rfl

/-- A load is refused and touches nothing, or what it reads is all that it does to the store. -/
theorem loadParameters_touches (mask : Mask) (p : Parameters) (s : State σ τ) :
    (M.loadParameters mask p s).2.2 = s ∨
      (M.loadParameters mask p s).2.2 = { s with store := (loadFields M.store mask p s.store).2 } := by
  by_cases hm : mask.isEmpty = true
  · exact .inl (by simp [loadParameters, hm])
  · cases hlock : s.roster.lock with
    | error err => exact .inl (by simp [loadParameters, hm, hlock])
    | ok modes =>
      right
      rw [loadParameters_of_lock M hlock (eq_false_of_ne_true hm)]
      simp only
      split <;> rfl

theorem loadParameters_frame (mask : Mask) (p : Parameters) (s : State σ τ) :
    (M.loadParameters mask p s).2.2 = { s with store := (M.loadParameters mask p s).2.2.store } := by
  rcases loadParameters_touches (M := M) mask p s with h | h <;> rw [h]

theorem saveParameters_keeps (mask : Mask) (p : Parameters) (s : State σ τ) :
    (M.saveParameters mask p s).2.view = s.view := by
  rw [saveParameters_frame]
  rfl

theorem loadParameters_keeps (mask : Mask) (p : Parameters) (s : State σ τ) :
    (M.loadParameters mask p s).2.2.view = s.view := by
  rw [loadParameters_frame]
  rfl

theorem issueHandle_keeps (mode : Mode) (access : Access) (s : State σ τ) :
    (issueHandle mode access s).2.view = s.view := by
  simp only [issueHandle, State.view, Roster.modes_issue]

theorem revokeHandle_keeps (h : Handle) (s : State σ τ) : (revokeHandle h s).2.view = s.view := by
  unfold revokeHandle
  split
  · rfl
  · simp only [State.view, Roster.modes_revoke]

theorem dissolve_refused {s : State σ τ} (h : (M.dissolve s).1 ≠ .ok ()) : (M.dissolve s).2 = s := by
  unfold dissolve at h ⊢
  split
  · rename_i hd
    rw [Roster.dissolve_error hd]
  · rename_i hd
    simp [hd] at h

/-- A dissolved control plane has no modes; a refused dissolution changes nothing. -/
theorem dissolve_leads (s : State σ τ) :
    (M.dissolve s).2 = s ∨
      (M.dissolve s).1 = .ok () ∧ M.Leads cap (none, s.env) (M.dissolve s).2.view := by
  unfold dissolve
  split
  · rename_i hd
    rw [Roster.dissolve_error hd]
    exact .inl rfl
  · rename_i hd
    refine .inr ⟨rfl, ?_⟩
    simp only [State.view, (Roster.dissolve_ok hd).2]
    exact unsubscribeAll_leads none _ s.env

/-! ## Runs -/

/-- Moves that act through the control plane, but for the one that ends its modes. -/
def Move.isInner : Move σ τ → Bool
  | .outside .. => false
  | .dissolve => false
  | _ => true

theorem step_leads {s : State σ τ} (hl : ∀ r, s.roster.modes = some r → r.Labelled) {mv : Move σ τ}
    (hi : mv.isInner = true) : M.Leads (M.capability s) s.view (M.step mv s).view := by
  cases mv with
  | setUp => exact setUp_leads s
  | dissolve => cases hi
  | issue mode access => exact issueHandle_keeps mode access s ▸ .refl
  | revoke h => exact revokeHandle_keeps h s ▸ .refl
  | start h source => exact start_leads hl h source
  | stop h => exact stop_leads hl h
  | flags h => exact withMode_leads fun _ _ _ _ _ => .refl
  | snapshot h => exact withMode_leads fun _ _ _ _ _ => .refl
  | rssi h => exact rssi_leads h s
  | netstat h => exact netstat_leads h s
  | listen h => exact listen_leads hl h
  | unlisten h => exact unlisten_leads hl h
  | save mask p => exact saveParameters_keeps (M := M) mask p s ▸ .refl
  | load mask p => exact loadParameters_keeps (M := M) mask p s ▸ .refl
  | event name event => exact receive_leads hl name event
  | outside => cases hi
  | lock => exact .refl

variable (M) in
/-- What changes keep, and the world and the end of the modes too, as far as they are allowed. -/
structure Invariant (ok : State σ τ → Move σ τ → Prop) (I : Option Modes × Env σ → Prop) : Prop where
  change {s : State σ τ} {mv : Move σ τ} {v v' : Option Modes × Env σ} :
    ok s mv → M.Change (M.capability s) v v' → (∀ r, v.1 = some r → r.Labelled) → I v → I v'
  outside {s : State σ τ} {platform : σ → σ} {store : τ → τ} {now : Nat} :
    ok s (.outside platform store now) → I s.view → I (M.step (.outside platform store now) s).view
  gone {s : State σ τ} : ok s .dissolve → (M.dissolve s).1 = .ok () → I s.view → I (none, s.env)

section
variable {ok : State σ τ → Move σ τ → Prop} {I : Option Modes × Env σ → Prop}

theorem Invariant.leads (hI : M.Invariant ok I) {s : State σ τ} {mv : Move σ τ} (hok : ok s mv)
    {v v' : Option Modes × Env σ} (h : M.Leads (M.capability s) v v')
    (hl : ∀ r, v.1 = some r → r.Labelled) (hv : I v) : I v' := by
  induction h with
  | refl => exact hv
  | tail h1 hc ih => exact hI.change hok hc (Leads.labelled h1 hl) ih

theorem Invariant.step (hI : M.Invariant ok I) {s : State σ τ} {mv : Move σ τ} (hok : ok s mv)
    (hl : ∀ r, s.roster.modes = some r → r.Labelled) (hv : I s.view) :
    I (M.step mv s).view ∧ ∀ r, (M.step mv s).roster.modes = some r → r.Labelled := by
  by_cases hi : mv.isInner = true
  · have h := step_leads (M := M) hl hi
    exact ⟨hI.leads hok h hl hv, h.labelled hl⟩
  · cases mv with
    | dissolve =>
      have h : (M.dissolve s).2 = s ∨ (M.dissolve s).1 = .ok () ∧
          M.Leads (M.capability s) (none, s.env) (M.dissolve s).2.view := dissolve_leads s
      rcases h with hd | ⟨ha, hd⟩
      · have hs : M.step .dissolve s = s := hd
        rw [hs]
        exact ⟨hv, hl⟩
      · have hn : ∀ r : Modes, ((none, s.env) : Option Modes × Env σ).1 = some r → r.Labelled := by simp
        exact ⟨hI.leads hok hd hn (hI.gone hok ha hv), hd.labelled hn⟩
    | outside => exact ⟨hI.outside hok hv, hl⟩
    | _ => exact absurd rfl hi

theorem Reach.holds {s₀ s : State σ τ} (h : M.Reach ok s₀ s) (hI : M.Invariant ok I)
    (hl : ∀ r, s₀.roster.modes = some r → r.Labelled) (hv : I s₀.view) :
    I s.view ∧ ∀ r, s.roster.modes = some r → r.Labelled := by
  induction h with
  | refl => exact ⟨hv, hl⟩
  | step mv _ hok ih => exact hI.step hok ih.2 ih.1

theorem Reach.labelled {s₀ s : State σ τ} (h : M.Reach ok s₀ s) (hs : s₀.roster.modes = none) :
    ∀ r, s.roster.modes = some r → r.Labelled := by
  have hI : M.Invariant ok (fun _ => True) :=
    ⟨fun _ _ _ _ => trivial, fun _ _ => trivial, fun _ _ _ => trivial⟩
  exact (h.holds hI (by simp [hs]) trivial).2

end

end ControlPlane

end Connectivity
