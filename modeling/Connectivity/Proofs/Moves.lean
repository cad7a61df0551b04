/-
  Connectivity.Proofs.Moves — what each move makes of the modes.
  - `view_receive`: the modes answer an event one after the other, each by itself (`reaction`).
  - `start_cases`: a start is refused, or clears its mode and fails, or brings its mode up.
  - `modes_stop`: a stop is refused, or takes its mode down, maybe after sessions were given back.
  - `calm_step`: other moves, but for a stop, change of a mode only whether it has a callback.
  - `fresh_step`: modes are made by `setUp` alone.
  - `reach_carried`: a mode that is not disconnected has an interface.
-/

import Connectivity.Proofs.StartStop

namespace Connectivity

/-- A mode that is not disconnected has an interface. -/
def ModeState.Carried (m : ModeState) : Prop := m.status ≠ .disconnected → m.carrier.isSome = true

/-- A mode whose interface was started just now. -/
def ModeState.begun (m : ModeState) (c : Carrier) (p : Parameters) : ModeState :=
  { m.cleared with carrier := some c, saved := some p, status := .connecting }.refresh.2

@[simp] theorem ModeState.begun_status (m : ModeState) (c : Carrier) (p : Parameters) :
    (m.begun c p).status = .connecting := by
  rw [begun, refresh_snd]

theorem ModeState.accepts_iff {m : ModeState} {name : String} :
    m.accepts name = true ↔ m.status ≠ .disconnected ∧ m.carrierName? = some name := by
  simp [accepts]

namespace ControlPlane

variable {σ τ : Type} (M : ControlPlane σ τ)

/-! ## Events -/

/-- What one mode makes of an event, and what it does about it. -/
def reaction (name : String) (event : Event) (m : ModeState) (e : Env σ) : ModeState × Env σ :=
  if m.accepts name then
    if event = .ifDownPre then
      match m.client with
      | some c => ({ m with client := none }, Link.surrender M.platform c.session e)
      | none => (m, e)
    else
      let x := Dispatch.answer M.platform M.policy.retryNanos event m e
      (x.1.refresh.2, x.2)
  else (m, e)

variable {M}

theorem reaction_of_not_accepts {m : ModeState} {name : String} (h : m.accepts name = false) (event : Event)
    (e : Env σ) : M.reaction name event m e = (m, e) := by
  simp [reaction, h]

theorem view_react {s : State σ τ} {r : Modes} (hr : s.roster.modes = some r) {event : Event}
    (he : event ≠ .ifDownPre) (name : String) (mode : Mode) :
    (M.react name event mode s).view =
      (some (r.set mode (M.reaction name event (r.get mode) s.env).1),
        (M.reaction name event (r.get mode) s.env).2) := by
  unfold react State.mode? reaction
  rw [hr]
  simp only [Option.map_some, if_neg he]
  split
  · rw [view_tell_update hr]
  · rw [Modes.set_get, State.view, hr]

theorem view_giveBack {s : State σ τ} {r : Modes} (hr : s.roster.modes = some r) (name : String) (mode : Mode) :
    (M.giveBack name mode s).view =
      (some (r.set mode (M.reaction name .ifDownPre (r.get mode) s.env).1),
        (M.reaction name .ifDownPre (r.get mode) s.env).2) := by
  unfold giveBack State.mode? reaction
  rw [hr]
  simp only [Option.map_some, if_true]
  split
  · cases (r.get mode).client with
    | some c => exact view_update hr mode _
    | none =>
      simp only
      rw [Modes.set_get, State.view, hr]
  · rw [Modes.set_get, State.view, hr]

/-- The normal mode answers an event first, then the access point. -/
theorem view_receive {s : State σ τ} {r : Modes} (hr : s.roster.modes = some r) (name : String) (event : Event) :
    (M.receive name event s).view =
      (some
        { r with
          normal := (M.reaction name event r.normal s.env).1
          accessPoint :=
            (M.reaction name event r.accessPoint (M.reaction name event r.normal s.env).2).1 },
        (M.reaction name event r.accessPoint (M.reaction name event r.normal s.env).2).2) := by
  by_cases he : event = .ifDownPre
  · subst he
    have h1 : (M.giveBack name .normal s).view =
        (some { r with normal := (M.reaction name .ifDownPre r.normal s.env).1 },
          (M.reaction name .ifDownPre r.normal s.env).2) := view_giveBack hr name .normal
    have henv : (M.giveBack name .normal s).env = _ := congrArg Prod.snd h1
    unfold receive
    rw [view_letThrough, view_giveBack (congrArg Prod.fst h1), henv]
    rfl
  · have h1 : (M.react name event .normal s).view =
        (some { r with normal := (M.reaction name event r.normal s.env).1 },
          (M.reaction name event r.normal s.env).2) := view_react hr he name .normal
    have henv : (M.react name event .normal s).env = _ := congrArg Prod.snd h1
    rw [receive_eq_react he, view_react (congrArg Prod.fst h1) he, henv]
    rfl

/-- Where there are no modes, nobody answers. -/
theorem receive_of_none {s : State σ τ} (hn : s.roster.modes = none) (name : String) (event : Event) :
    M.receive name event s = s := by
  have hmode (mode : Mode) : s.mode? mode = none := by simp [State.mode?, hn]
  have hgiveBack (mode : Mode) : M.giveBack name mode s = s := by simp [giveBack, hmode mode]
  have hreact (mode : Mode) : M.react name event mode s = s := by simp [react, hmode mode]
  by_cases he : event = .ifDownPre
  · subst he
    unfold receive
    rw [hgiveBack, hgiveBack]
    simp [letThrough, hn]
  · rw [receive_eq_react he, hreact, hreact]

theorem modes_receive {s : State σ τ} {r : Modes} (hr : s.roster.modes = some r) (name : String) (event : Event) :
    ∃ r', (M.receive name event s).roster.modes = some r' ∧
      ∀ mode, ∃ e, r'.get mode = (M.reaction name event (r.get mode) e).1 := by
  have hv : (M.receive name event s).roster.modes = _ := congrArg Prod.fst (view_receive hr name event)
  refine ⟨_, hv, fun mode => ?_⟩
  cases mode with
  | normal => exact ⟨_, rfl⟩
  | accessPoint => exact ⟨_, rfl⟩

/-! ## Starts -/

theorem modes_bringUp {s : State σ τ} {r : Modes} (hr : s.roster.modes = some r) {mode : Mode}
    (hm : (r.get mode).mode = mode) (kind : InterfaceKind) (p : Parameters) :
    ∃ m, (M.bringUp (r.get mode) kind p s).2.roster.modes = some (r.set mode m) ∧
      ((∃ err, (M.bringUp (r.get mode) kind p s).1 = .error err) ∧ m = (r.get mode).cleared ∨
        (M.bringUp (r.get mode) kind p s).1 = .ok () ∧ ∃ c, m = (r.get mode).begun c p) := by
  generalize r.get mode = m at hm ⊢
  subst hm
  unfold bringUp
  split
  · rename_i err m' e' hs
    obtain rfl : m' = m.cleared := Link.start_error _ hs
    exact ⟨_, congrArg Prod.fst (view_update hr m.mode (m.cleared, e')), .inl ⟨⟨err, rfl⟩, rfl⟩⟩
  · rename_i m' e' hs
    obtain ⟨i, -, rfl⟩ := Link.start_ok _ hs
    exact ⟨_, congrArg Prod.fst (view_tell_update hr m.mode _), .inr ⟨rfl, _, rfl⟩⟩

theorem resolve_given {m : ModeState} {q p : Parameters} {s s' : State σ τ}
    (h : M.resolve m (.given q) s = (.ok p, s')) : p = q := by
  cases h
  rfl

/-- A start is refused and changes no mode; or its mode was disconnected, and is cleared if the start
    fails and begun, with the parameters that were given if any were, if it does not. -/
theorem start_cases {s : State σ τ} (hl : ∀ r, s.roster.modes = some r → r.Labelled) (h : Handle)
    (source : ParameterSource) :
    (∃ err, (M.start h source s).1 = .error err ∧ (M.start h source s).2.roster.modes = s.roster.modes) ∨
    ∃ mode r m, s.roster.modeOf h = .ok mode ∧ s.roster.modes = some r ∧
      (r.get mode).status = .disconnected ∧ (M.start h source s).2.roster.modes = some (r.set mode m) ∧
      ((∃ err, (M.start h source s).1 = .error err) ∧ m = (r.get mode).cleared ∨
        (M.start h source s).1 = .ok () ∧
          ∃ c p, m = (r.get mode).begun c p ∧ ∀ q, source = .given q → p = q) := by
  rcases withMode_cases h true _ s with ⟨err, he, hv⟩ | ⟨mode, r, s', hm, hr, hs', -, hres, hv⟩
  · exact .inl ⟨err, he, congrArg Prod.fst hv⟩
  · have hres : (M.start h source s).1 = _ := hres
    have hmodes : (M.start h source s).2.roster.modes = _ := congrArg Prod.fst hv
    rw [hres, hmodes]
    have hr' : s'.roster.modes = some r := (congrArg Prod.fst hs').trans hr
    split
    · exact .inl ⟨_, rfl, hr'.trans hr.symm⟩
    · rename_i hd
      obtain ⟨hroster, -⟩ : _ ∧ M.Leads false s'.view _ := resolve_leads (r.get mode) source s'
      split <;> rename_i hx <;> rw [hx] at hroster
      · exact .inl ⟨_, rfl, ((congrArg Roster.modes hroster).trans hr').trans hr.symm⟩
      · rename_i p s''
        have hr'' : s''.roster.modes = some r := (congrArg Roster.modes hroster).trans hr'
        split
        · exact .inl ⟨_, rfl, hr''.trans hr.symm⟩
        · rename_i kind _
          obtain ⟨m, hb, hcases⟩ := modes_bringUp (M := M) hr'' (hl r hr mode) kind p
          refine .inr ⟨mode, r, m, hm, hr, Decidable.not_not.mp hd, hb, hcases.imp_right ?_⟩
          rintro ⟨hok, c, hbegun⟩
          refine ⟨hok, c, p, hbegun, ?_⟩
          rintro q rfl
          exact resolve_given hx

/-! ## Stops -/

/-- The modes differ in sessions that were given up, if in anything. -/
def Surrendered (r r' : Modes) : Prop :=
  ∀ mode, r'.get mode = r.get mode ∨ r'.get mode = { r.get mode with client := none }

theorem surrendered_givenBack (r : Modes) (name? : Option String) :
    Surrendered r (name?.elim r r.givenBack) := by
  intro mode
  cases name? with
  | none => exact .inl rfl
  | some name =>
    rw [Option.elim_some, Modes.get_givenBack, ModeState.givenBack]
    split
    · exact .inr rfl
    · exact .inl rfl

theorem Surrendered.status {r r' : Modes} (h : Surrendered r r') (mode : Mode) :
    (r'.get mode).status = (r.get mode).status := by
  rcases h mode with h | h <;> rw [h]

theorem Surrendered.carrier {r r' : Modes} (h : Surrendered r r') (mode : Mode) :
    (r'.get mode).carrier = (r.get mode).carrier := by
  rcases h mode with h | h <;> rw [h]

theorem Surrendered.refl (r : Modes) : Surrendered r r := fun _ => .inl rfl

/-- A stop is refused or loses the lock, and no more than sessions were given up; or its mode was running and is
    taken down. -/
theorem modes_stop {s : State σ τ} {r : Modes} (hl : ∀ r, s.roster.modes = some r → r.Labelled)
    (hr : s.roster.modes = some r) (h : Handle) :
    (∃ err r₁, (M.stop h s).1 = .error err ∧ Surrendered r r₁ ∧ (M.stop h s).2.roster.modes = some r₁) ∨
    ∃ mode r₁ e x, s.roster.modeOf h = .ok mode ∧ (r.get mode).status.isRunning = true ∧
      Surrendered r r₁ ∧ Link.stop M.platform (r₁.get mode) e = x ∧ (M.stop h s).1 = x.1 ∧
      (M.stop h s).2.roster.modes = some (r₁.set mode x.2.1.refresh.2) := by
  rcases stop_cases hl h with
    ⟨err, herr, hv⟩ | ⟨mode, r₀, s', -, hr₀, -, -, -, herr, hv⟩ |
      ⟨mode, r₀, r₁, s', x, hm, hr₀, -, hrun, -, hr₁, hx, hres, hv⟩
  · exact .inl ⟨err, r, herr, .refl r, (congrArg Prod.fst hv).trans hr⟩
  · obtain rfl : r = r₀ := Option.some.inj (hr.symm.trans hr₀)
    exact .inl ⟨_, _, herr, surrendered_givenBack r _, congrArg Prod.fst hv⟩
  · obtain rfl : r = r₀ := Option.some.inj (hr.symm.trans hr₀)
    exact .inr ⟨mode, r₁, _, x, hm, hrun, hr₁ ▸ surrendered_givenBack r _, hx.symm, hres, congrArg Prod.fst hv⟩

/-! ## Moves that change no connection -/

/-- A move that is neither a start, a stop nor an event. -/
def Move.isCalm : Move σ τ → Bool
  | .start .. => false
  | .stop _ => false
  | .event .. => false
  | _ => true

/-- Modes that differ in whether they have callbacks, if in anything. -/
def Alike (r r' : Modes) : Prop := ∀ mode, ∃ b, r'.get mode = { r.get mode with listening := b }

theorem Alike.refl (r : Modes) : Alike r r := fun mode => ⟨(r.get mode).listening, rfl⟩

theorem alike_set (r : Modes) (mode : Mode) (b : Bool) :
    Alike r (r.set mode { r.get mode with listening := b }) := by
  intro mode'
  rw [Modes.get_set]
  split
  · rename_i h
    subst h
    exact ⟨b, rfl⟩
  · exact ⟨(r.get mode').listening, rfl⟩

/-- A question to the platform that a handle's mode is asked for. -/
theorem modes_withMode {α : Type} {h : Handle} {run : ModeState → Operation σ τ α} {s : State σ τ} {r : Modes}
    (hr : s.roster.modes = some r)
    (hrun : ∀ mode (s' : State σ τ), s'.roster.modes = some r →
      ∃ r', (run (r.get mode) s').2.roster.modes = some r' ∧ Alike r r') :
    ∃ r', (withMode h false run s).2.roster.modes = some r' ∧ Alike r r' := by
  rcases withMode_cases h false run s with ⟨_, -, hv⟩ | ⟨mode, r', s', -, hr', hs', -, -, hv⟩
  · exact ⟨r, (congrArg Prod.fst hv).trans hr, .refl r⟩
  · obtain rfl : r = r' := Option.some.inj (hr.symm.trans hr')
    obtain ⟨r'', hr'', ha⟩ := hrun mode s' ((congrArg Prod.fst hs').trans hr)
    exact ⟨r'', (congrArg Prod.fst hv).trans hr'', ha⟩

theorem modes_setUp {s : State σ τ} {r : Modes} (hr : s.roster.modes = some r) :
    (M.setUp s).2.roster.modes = some r := by
  unfold setUp
  split
  · exact hr
  · split
    · rename_i hs
      rw [Roster.setUp_error hs]
      exact hr
    · rename_i hs
      rw [Roster.setUp_false hs]
      exact hr
    · rename_i hs
      obtain ⟨hn, -⟩ := Roster.setUp_true hs
      rw [hr] at hn
      cases hn

theorem modes_dissolve {s : State σ τ} {r : Modes} (hr : s.roster.modes = some r) :
    (M.dissolve s).2.roster.modes = some r ∨ (M.dissolve s).2.roster.modes = none := by
  unfold dissolve
  split
  · rename_i hd
    rw [Roster.dissolve_error hd]
    exact .inl hr
  · rename_i hd
    exact .inr (Roster.dissolve_ok hd).2

theorem calm_step {s : State σ τ} {r r' : Modes} (hl : r.Labelled) (hr : s.roster.modes = some r)
    {mv : Move σ τ} (hc : mv.isCalm = true) (hr' : (M.step mv s).roster.modes = some r') : Alike r r' := by
  have hkept (h : (M.step mv s).roster.modes = some r) : Alike r r' := by
    obtain rfl : r = r' := Option.some.inj (h.symm.trans hr')
    exact .refl r
  have hasked (h : ∃ r'', (M.step mv s).roster.modes = some r'' ∧ Alike r r'') : Alike r r' := by
    obtain ⟨r'', h'', ha⟩ := h
    obtain rfl : r'' = r' := Option.some.inj (h''.symm.trans hr')
    exact ha
  have hlisten (mode : Mode) {s' : State σ τ} (hs' : s'.roster.modes = some r) (b : Bool) :
      ∃ r'', (s'.update (r.get mode).mode ({ r.get mode with listening := b }, s'.env)).roster.modes = some r'' ∧
        Alike r r'' := by
    rw [hl mode]
    exact ⟨_, congrArg Prod.fst (view_update hs' mode _), alike_set r mode b⟩
  cases mv with
  | setUp => exact hkept (modes_setUp hr)
  | dissolve =>
    rcases modes_dissolve (M := M) hr with h | h
    · exact hkept h
    · have hn : (M.step .dissolve s).roster.modes = none := h
      rw [hr'] at hn
      cases hn
  | issue mode access => exact hkept ((congrArg Prod.fst (issueHandle_keeps mode access s)).trans hr)
  | revoke h => exact hkept ((congrArg Prod.fst (revokeHandle_keeps h s)).trans hr)
  | start => cases hc
  | stop => cases hc
  | flags h => exact hasked (modes_withMode hr fun _ _ hs' => ⟨r, hs', .refl r⟩)
  | snapshot h => exact hasked (modes_withMode hr fun _ _ hs' => ⟨r, hs', .refl r⟩)
  | rssi h =>
    refine hasked (modes_withMode hr fun mode s' hs' => ⟨r, ?_, .refl r⟩)
    split
    · split <;> exact hs'
    · exact hs'
  | netstat h =>
    refine hasked (modes_withMode hr fun mode s' hs' => ⟨r, ?_, .refl r⟩)
    split
    · exact hs'
    · split <;> exact hs'
  | listen h =>
    refine hasked (modes_withMode hr fun mode s' hs' => ?_)
    split
    · exact ⟨r, hs', .refl r⟩
    · exact hlisten mode hs' true
  | unlisten h =>
    refine hasked (modes_withMode hr fun mode s' hs' => ?_)
    split
    · exact hlisten mode hs' false
    · exact ⟨r, hs', .refl r⟩
  | save mask p => exact hkept ((congrArg Prod.fst (saveParameters_keeps (M := M) mask p s)).trans hr)
  | load mask p => exact hkept ((congrArg Prod.fst (loadParameters_keeps (M := M) mask p s)).trans hr)
  | event => cases hc
  | outside => exact hkept hr
  | lock => exact hkept hr

/-! ## Modes that are set up -/

theorem modes_setUp_of_none {s : State σ τ} {r : Modes} (hn : s.roster.modes = none)
    (hr : (M.setUp s).2.roster.modes = some r) : ∃ interfaces, Modes.ofInterfaces? interfaces = some r := by
  unfold setUp at hr
  split at hr
  · rw [hn] at hr
    cases hr
  · rename_i interfaces _ _
    split at hr
    · rename_i hx
      rw [Roster.setUp_error hx, hn] at hr
      cases hr
    · rename_i hx
      rw [Roster.setUp_false hx, hn] at hr
      cases hr
    · rename_i hx
      obtain ⟨-, r', hi, hr'⟩ := Roster.setUp_true hx
      have hset : some r' = some r → ∃ interfaces, Modes.ofInterfaces? interfaces = some r := by
        rintro ⟨⟩
        exact ⟨interfaces, hi⟩
      split at hr
      · exact hset (hr'.symm.trans hr)
      · split at hr <;> rename_i hd
        · rw [Roster.dissolve_error hd] at hr
          exact hset (hr'.symm.trans hr)
        · have hgone : some r = none := hr.symm.trans (Roster.dissolve_ok hd).2
          cases hgone

/-- Where there are no modes, only `setUp` makes any, and they are new. -/
theorem fresh_step {s : State σ τ} {r : Modes} (hn : s.roster.modes = none) (mv : Move σ τ)
    (hr : (M.step mv s).roster.modes = some r) : ∃ interfaces, Modes.ofInterfaces? interfaces = some r := by
  have habsurd {s' : State σ τ} (hs' : s'.roster.modes = s.roster.modes) (hr : s'.roster.modes = some r) :
      ∃ interfaces, Modes.ofInterfaces? interfaces = some r := by
    rw [hs', hn] at hr
    cases hr
  -- A call that needs a mode's state is refused.
  have hrefused {α : Type} {h : Handle} {isControl : Bool} {run : ModeState → Operation σ τ α}
      (hr : (withMode h isControl run s).2.roster.modes = some r) :
      ∃ interfaces, Modes.ofInterfaces? interfaces = some r := by
    rcases withMode_cases h isControl run s with ⟨_, -, hv⟩ | ⟨_, r', _, -, hr', -⟩
    · exact habsurd (congrArg Prod.fst hv) hr
    · rw [hn] at hr'
      cases hr'
  cases mv with
  | setUp => exact modes_setUp_of_none hn hr
  | dissolve =>
    have hr : (M.dissolve s).2.roster.modes = some r := hr
    unfold dissolve at hr
    split at hr <;> rename_i hd
    · rw [Roster.dissolve_error hd] at hr
      exact habsurd rfl hr
    · have hgone : some r = none := hr.symm.trans (Roster.dissolve_ok hd).2
      cases hgone
  | issue mode access => exact habsurd (congrArg Prod.fst (issueHandle_keeps mode access s)) hr
  | revoke h => exact habsurd (congrArg Prod.fst (revokeHandle_keeps h s)) hr
  | start h source => exact hrefused hr
  | stop h => exact hrefused hr
  | flags h => exact hrefused hr
  | snapshot h => exact hrefused hr
  | rssi h => exact hrefused hr
  | netstat h => exact hrefused hr
  | listen h => exact hrefused hr
  | unlisten h => exact hrefused hr
  | save mask p => exact habsurd (congrArg Prod.fst (saveParameters_keeps (M := M) mask p s)) hr
  | load mask p => exact habsurd (congrArg Prod.fst (loadParameters_keeps (M := M) mask p s)) hr
  | event name event =>
    have hstep : M.step (.event name event) s = s := receive_of_none hn name event
    rw [hstep] at hr
    exact habsurd rfl hr
  | outside => exact habsurd rfl hr
  | lock => exact habsurd rfl hr

/-! ## Carriers -/

theorem Turn.carried {cap : Bool} {x y : ModeState × Env σ} (h : M.Turn cap x y) (hx : x.1.Carried) :
    y.1.Carried := by
  cases h with
  | listening => exact hx
  | @answered m e name event ha =>
    intro _
    have hc := ModeState.carrier_of_fixed (Dispatch.fixed_answer M.platform M.policy.retryNanos event m e)
    rw [ModeState.refresh_snd]
    exact (congrArg Option.isSome hc).trans (hx (ModeState.accepts_iff.mp ha).1)
  | gaveBack => exact hx
  | notStarted hd hs =>
    rw [Link.start_error _ hs]
    exact absurd hd
  | started _ _ hs =>
    obtain ⟨i, -, rfl⟩ := Link.start_ok _ hs
    intro _
    rw [ModeState.refresh_snd]
    rfl
  | @stopped m e hr =>
    intro _
    have hc := ModeState.carrier_of_fixed (Link.fixed_stop M.platform m e)
    rw [ModeState.refresh_snd]
    exact (congrArg Option.isSome hc).trans (hx (Status.ne_of_isRunning hr))

theorem invariant_carried {ok : State σ τ → Move σ τ → Prop} :
    M.Invariant ok (fun v => ∀ r, v.1 = some r → ∀ mode, (r.get mode).Carried) where
  change _ h _ hv r' hr' := by
    cases h with
    | @turn r _ _ mode ht =>
      cases hr'
      intro mode'
      rw [Modes.get_set]
      split
      · exact ht.carried (hv r rfl mode)
      · exact hv r rfl mode'
    | asked => exact hv r' hr'
    | fresh hi =>
      cases hr'
      intro mode
      obtain ⟨_, _, hm⟩ := get_ofInterfaces? hi mode
      rw [hm]
      exact absurd rfl
  outside _ hv := hv
  gone _ _ _ r hr := by cases hr

theorem reach_carried {ok : State σ τ → Move σ τ → Prop} {s₀ s : State σ τ} (hs : s₀.roster.modes = none)
    (h : M.Reach ok s₀ s) {r : Modes} (hr : s.roster.modes = some r) (mode : Mode) : (r.get mode).Carried :=
  (h.holds invariant_carried (by simp [hs]) (by simp [State.view, hs])).1 r hr mode

end ControlPlane

end Connectivity
