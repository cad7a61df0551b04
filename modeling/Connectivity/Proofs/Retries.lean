/-
  Connectivity.Proofs.Retries — a connection that waits for a lease, and who asks for one again.
  - `Stranded`: it has no session to ask in, and so no tick asks (`idle_of_stranded`).
  - `stranded_step`: two things strand a connection. One is the event ahead of the teardown of its
    interface; the other is a session that is refused as the link comes up, since only a failure inside a
    session is remembered.
  - `reach_retried`: else there is a session, the latest failure is remembered in it, and a tick asks again
    once the retry interval has passed.
-/

import Connectivity.Proofs.Upkeep

namespace Connectivity

/-- Interface and link are up, and what is missing is an address from a DHCP server. -/
def ModeState.AwaitsLease (m : ModeState) : Prop :=
  m.status = .connecting ∧ m.ifUp = true ∧ m.linkUp = true ∧ m.parameters.isStatic = false

/-- A lease is awaited, and there is no session in which to ask for one. -/
def ModeState.Stranded (m : ModeState) : Prop := m.AwaitsLease ∧ m.client = none

instance (m : ModeState) : Decidable m.AwaitsLease := inferInstanceAs (Decidable (_ ∧ _ ∧ _ ∧ _))

theorem ModeState.Stranded.of_refresh {m : ModeState} (h : m.refresh.2.Stranded) : m.Stranded := by
  rw [refresh_snd] at h
  exact h

/-- The interface whose hardware address is asked for, as it is before a session is opened. -/
def PlatformCall.mac? : PlatformCall → Option String
  | .mac name => some name
  | _ => none

section
variable {σ : Type} {P : Platform σ} {m : ModeState} {e : Env (Recorded σ)}

/-- A session is about to be opened, and nothing comes of it: none is opened, nor is anything done in
    another. -/
def Env.Refused (e e' : Env (Recorded σ)) : Prop :=
  e'.calls.filterMap PlatformCall.mac? ≠ e.calls.filterMap PlatformCall.mac? ∧ e'.uses = e.uses

instance (e e' : Env (Recorded σ)) : Decidable (e.Refused e') := inferInstanceAs (Decidable (_ ≠ _ ∧ _ = _))

/-! ## Links -/

namespace Link

theorem refused_openSession {name : String} {e' : Env (Recorded σ)} {err : PlatformError}
    (h : openSession P.recorded name e = (.error err, e')) : e.Refused e' := by
  have hmac {e₁ : Env (Recorded σ)} (h : e₁.calls = .mac name :: e.calls) : e.Refused e₁ := by
    refine ⟨?_, ?_⟩
    · rw [h]
      exact List.cons_ne_self _ _
    · unfold Env.uses
      rw [h]
      rfl
  unfold openSession at h
  split at h
  · rename_i hx
    cases h
    exact hmac (Env.calls_of_perform hx)
  · rename_i hx
    have h1 := hmac (Env.calls_of_perform hx)
    refine ⟨?_, (Env.uses_of_perform h).trans h1.2⟩
    rw [Env.hidden_of_perform h fun _ => rfl]
    exact h1.1

theorem isSome_client_askForLease (name : String) {c : Client} (hc : m.client = some c) (e : Env (Recorded σ)) :
    (askForLease P.recorded name m e).1.client ≠ none := by
  obtain ⟨⟨c', hc', -⟩, -⟩ := askForLease_tried (P := P) name hc e
  rw [hc']
  nofun

/-- With a session a lease is asked for, and the session stays. -/
theorem refused_assignLease (name : String) (hcap : P.ownsDhcpClient e.platform.inner = false)
    (hc : (assignLease P.recorded name m e).1.client = none) : e.Refused (assignLease P.recorded name m e).2 := by
  have hcap : P.recorded.ownsDhcpClient e.platform = false := hcap
  unfold assignLease at hc ⊢
  rw [hcap] at hc ⊢
  simp only [Bool.false_eq_true, if_false] at hc ⊢
  cases hm : m.client with
  | some c =>
    rw [hm] at hc
    exact absurd hc (isSome_client_askForLease name hm e)
  | none =>
    rw [hm] at hc
    simp only at hc ⊢
    cases hx : openSession P.recorded name e with
    | mk answer e' =>
      rw [hx] at hc
      cases answer with
      | error err =>
        have hrefused := refused_openSession hx
        exact hrefused
      | ok id => exact absurd hc (isSome_client_askForLease name rfl e')

theorem refused_gainLink {own : Option Bool} (h : m.Consistent own) (hs : m.status = .connecting)
    (hcap : P.ownsDhcpClient e.platform.inner = false) (hx : (gainLink P.recorded m e).1.Stranded) :
    e.Refused (gainLink P.recorded m e).2 := by
  obtain ⟨c, -, hcarrier, -⟩ := h.carrier (by rw [hs]; decide)
  have hname := ModeState.carrierName?_of_carrier hcarrier
  have hfixed := fixed_gainLink P.recorded m e
  have hdynamic : m.parameters.isStatic = false := by
    have hparameters : (gainLink P.recorded m e).1.parameters = m.parameters := by
      unfold ModeState.parameters
      rw [ModeState.saved_of_fixed hfixed]
    rw [← hparameters]
    exact hx.1.2.2.2
  unfold gainLink at hx ⊢
  rw [hname] at hx ⊢
  simp only [hdynamic, Bool.false_eq_true, if_false] at hx ⊢
  exact refused_assignLease c.name hcap hx.2

theorem not_awaitsLease_loseLink (m : ModeState) (ifUp : Bool) (e : Env (Recorded σ)) :
    ¬ (loseLink P.recorded { m with ifUp, linkUp := false } e).1.AwaitsLease := by
  rw [loseLink_fst]
  intro h
  cases h.2.2.1

/-- A tick keeps a session. -/
theorem stranded_tick {b : Bool} (retry : Nat) (h : m.Consistent (some b))
    (hx : (tick P.recorded retry m e).1.Stranded) : m.Stranded := by
  cases hc : m.client with
  | none =>
    rw [tick_of_no_client retry hc] at hx
    exact hx
  | some c =>
    obtain ⟨carrier, -, hcarrier, -⟩ := h.carrier (h.session c hc).not_disconnected
    have hname := ModeState.carrierName?_of_carrier hcarrier
    have hnone := hx.2
    rw [tick_due retry h hc hname e] at hnone
    have hsome {m' : ModeState} {p : Client → Prop} (h : ∃ c', m'.client = some c' ∧ p c') :
        m'.client ≠ none := by
      obtain ⟨c', hc', -⟩ := h
      rw [hc']
      nofun
    split at hnone
    · rw [hc] at hnone
      cases hnone
    · exact absurd hnone (hsome (askForLease_tried _ hc e).1)
    · exact absurd hnone (hsome (extendLease_tried _ _ hc e).1)
    · exact absurd hnone (hsome (startOver_tried _ hc e).1)

end Link

/-! ## Events -/

namespace Dispatch

open Link

theorem refused_bothUp {own : Option Bool} (h : m.Consistent own)
    (hcap : P.ownsDhcpClient e.platform.inner = false) (hx : (bothUp P.recorded m e).1.Stranded) :
    e.Refused (bothUp P.recorded m e).2 := by
  unfold bothUp at hx ⊢
  split
  · rename_i hready
    rw [if_pos hready] at hx
    simp only [Bool.and_eq_true, decide_eq_true_eq] at hready
    exact refused_gainLink h hready.1.1 hcap hx
  · rename_i hready
    rw [if_neg hready] at hx
    refine absurd ?_ hready
    obtain ⟨hs, hi, hl, -⟩ := hx.1
    simp only [Bool.and_eq_true, decide_eq_true_eq]
    exact ⟨⟨hs, hi⟩, hl⟩

/-- Of all events the one that brings the link up strands a connection, if it is refused a session. -/
theorem refused_answer {b : Bool} (retry : Nat) {event : Event} (h : m.Consistent (some b))
    (hm : m.mode = .normal) (hcap : P.ownsDhcpClient e.platform.inner = false) (hfree : ¬ m.Stranded)
    (hx : (answer P.recorded retry event m e).1.Stranded) : e.Refused (answer P.recorded retry event m e).2 := by
  have hlost (ifUp : Bool) : ¬ (loseLink P.recorded { m with ifUp, linkUp := false } e).1.Stranded :=
    fun hx => not_awaitsLease_loseLink m ifUp e hx.1
  have hrestarted {m' : ModeState} {e' : Env (Recorded σ)} (h : (restart P.recorded m' e').1.Stranded) :
      m'.Stranded := by
    rw [restart_fst] at h
    exact h
  have hkind (event : Event) (hx : (byKind P.recorded event m e).1.Stranded) :
      e.Refused (byKind P.recorded event m e).2 := by
    unfold byKind at hx ⊢
    rw [hm] at hx ⊢
    cases hk : m.carrierKind? with
    | none =>
      rw [hk] at hx
      exact absurd hx hfree
    | some kind =>
      rw [hk] at hx
      cases kind with
      | ethernet =>
        simp only [ethernet] at hx ⊢
        split at hx
        · exact refused_bothUp (h.up true m.linkUp (fun _ => rfl) id) hcap hx
        · exact refused_bothUp (h.up m.ifUp true id (fun _ => rfl)) hcap hx
        · exact absurd hx (hlost false)
        · exact absurd hx (hlost m.ifUp)
        · exact absurd hx hfree
      | wifi =>
        simp only [station] at hx ⊢
        split at hx
        · split at hx
          · rename_i hs
            rw [if_pos hs]
            exact refused_gainLink (h.up true true (fun _ => rfl) (fun _ => rfl)) hs hcap hx
          · rename_i hs
            exact absurd hx.1.1 hs
        · split at hx
          · exact absurd (hrestarted hx) (hlost m.ifUp)
          · exact absurd hx (hlost m.ifUp)
        · split at hx
          · cases hx.1.1
          · exact absurd (hrestarted hx) (hlost false)
        · exact absurd hx (hlost m.ifUp)
        · exact absurd hx (hlost m.ifUp)
        · exact absurd hx hfree
  unfold answer at hx ⊢
  split at hx
  · exact absurd (stranded_tick retry h hx) hfree
  · split at hx
    · cases hx.1.1
    · rename_i hs
      rw [if_neg hs]
      exact hkind _ hx
  · exact hkind _ hx

end Dispatch

end

/-! ## Runs -/

namespace ControlPlane

variable {σ τ : Type}

/-- The normal mode awaits a lease and has no session to ask for it. -/
def State.Stranded (s : State σ τ) : Prop := ∃ r, s.roster.modes = some r ∧ r.normal.Stranded

variable (M : ControlPlane σ τ)

/-- The normal mode is told that its interface goes down: by an event, or as a stop announces it. -/
def forewarns (s : State σ τ) : Move σ τ → Bool
  | .event name .ifDownPre => s.roster.modes.any fun r => r.normal.accepts name
  | .stop h =>
    match s.roster.modeOf h with
    | .ok mode =>
      s.roster.modes.any fun r =>
        (r.get mode).status.isRunning && (M.heard? (r.get mode) s.env).any fun name => r.normal.accepts name
    | .error _ => false
  | _ => false

/-- The moves that strand nobody, where the platform runs no DHCP client of its own. -/
def Unhindered (s : State (Recorded σ) τ) (mv : Move (Recorded σ) τ) : Prop :=
  M.recorded.capability s = false ∧ M.recorded.forewarns s mv = false ∧
    ¬ s.env.Refused (M.recorded.step mv s).env

instance (s : State (Recorded σ) τ) (mv : Move (Recorded σ) τ) : Decidable (M.Unhindered s mv) :=
  inferInstanceAs (Decidable (_ ∧ _ ∧ _))

/-- The moves that make no attempt to get a lease, under the same platform. -/
def Unattempted (s : State (Recorded σ) τ) (mv : Move (Recorded σ) τ) : Prop :=
  M.recorded.capability s = false ∧ (M.recorded.step mv s).env.attempts = s.env.attempts

variable {M} {s : State (Recorded σ) τ} {r r' : Modes} {name : String} {event : Event}

/-- A tick asks the platform for nothing, and leaves a connection stranded. -/
theorem idle_of_stranded {own : Option Bool} (hr : s.roster.modes = some r) (h : r.Consistent own)
    (hx : r.normal.Stranded) (name : String) :
    (M.recorded.receive name .tick s).Stranded ∧ (M.recorded.receive name .tick s).env = s.env := by
  obtain ⟨r', hr', hn, henv⟩ := receive_tick (M := M.recorded) hr h.accessPoint name
  by_cases ha : r.normal.accepts name = true
  · rw [reaction_tick ha, Link.tick_of_no_client _ hx.2] at hn henv
    refine ⟨⟨r', hr', ?_⟩, henv⟩
    rw [hn, ModeState.refresh_snd]
    exact hx
  · rw [reaction_of_not_accepts (eq_false_of_ne_true ha)] at hn henv
    refine ⟨⟨r', hr', ?_⟩, henv⟩
    rw [hn]
    exact hx

theorem refused_receive (hr : s.roster.modes = some r) (hl : r.Labelled) (h : r.Consistent (some false))
    (hcap : M.recorded.capability s = false) (hpre : event = .ifDownPre → r.normal.accepts name = false)
    (hfree : ¬ r.normal.Stranded) (hr' : (M.recorded.receive name event s).roster.modes = some r')
    (hx : r'.normal.Stranded) : s.env.Refused (M.recorded.receive name event s).env := by
  have hn : r'.normal = (M.recorded.reaction name event r.normal s.env).1 := by
    have hmodes := hr'.symm.trans (congrArg Prod.fst (view_receive (M := M.recorded) hr name event))
    exact congrArg Modes.normal (Option.some.inj hmodes)
  have hrefused : s.env.Refused (M.recorded.reaction name event r.normal s.env).2 := by
    rw [hn] at hx
    unfold reaction at hx ⊢
    split at hx
    · rename_i ha
      split at hx
      · rename_i he
        rw [hpre he] at ha
        cases ha
      · rename_i he
        rw [if_pos ha, if_neg he]
        exact Dispatch.refused_answer M.policy.retryNanos h.normal (hl .normal) hcap hfree hx.of_refresh
    · exact absurd hx hfree
  obtain ⟨hmac, huses⟩ := hrefused
  refine ⟨?_, ?_⟩
  · rw [hidden_receive (fun _ _ => rfl) (fun _ _ => rfl) (fun _ _ => rfl) hr hl h.accessPoint]
    exact hmac
  · exact (hidden_receive (fun _ _ => rfl) (fun _ _ => rfl) (fun _ _ => rfl) hr hl h.accessPoint name event).trans
      huses

theorem stranded_start (hl : ∀ r, s.roster.modes = some r → r.Labelled) {h : Handle} {source : ParameterSource}
    (hx : (M.recorded.start h source s).2.Stranded) : s.Stranded := by
  obtain ⟨r', hr', hx⟩ := hx
  rcases start_cases (M := M.recorded) hl h source with ⟨_, -, hv⟩ | ⟨mode, r, m, -, hr, hd, hv, hm⟩
  · exact ⟨r', hv.symm.trans hr', hx⟩
  · obtain rfl : r.set mode m = r' := Option.some.inj (hv.symm.trans hr')
    cases mode with
    | accessPoint => exact ⟨r, hr, hx⟩
    | normal =>
      have hx : m.Stranded := hx
      obtain ⟨-, hi, -⟩ := hx.1
      rcases hm with ⟨-, rfl⟩ | ⟨-, c, p, rfl, -⟩
      · cases hi
      · rw [ModeState.begun, ModeState.refresh_snd] at hi
        cases hi

/-- A stop that is not heard ahead of the teardown takes its mode down, or changes nothing. -/
theorem stranded_stop (hl : ∀ r, s.roster.modes = some r → r.Labelled)
    (hcarried : ∀ r, s.roster.modes = some r → ∀ mode, (r.get mode).Carried) {h : Handle}
    (hpre : M.recorded.forewarns s (.stop h) = false) (hx : (M.recorded.stop h s).2.Stranded) : s.Stranded := by
  obtain ⟨r', hr', hx⟩ := hx
  have hkept {mode : Mode} {r : Modes} (hm : s.roster.modeOf h = .ok mode) (hr : s.roster.modes = some r)
      (hrun : (r.get mode).status.isRunning = true) :
      ((M.recorded.heard? (r.get mode) s.env).elim r r.givenBack).normal = r.normal := by
    cases hheard : M.recorded.heard? (r.get mode) s.env with
    | none => rfl
    | some name =>
      simp only [forewarns, hm, hr, Option.any_some, hrun, Bool.true_and, hheard] at hpre
      show r.normal.givenBack name = r.normal
      simp [ModeState.givenBack, hpre]
  rcases stop_cases (M := M.recorded) hl h with
    ⟨_, -, hv⟩ | ⟨mode, r, s', hm, hr, -, hrun, -, -, hv⟩ |
      ⟨mode, r, r₁, s', ⟨result, m', e'⟩, hm, hr, -, hrun, -, hr₁, hstop, -, hv⟩
  · exact ⟨r', (congrArg Prod.fst hv).symm.trans hr', hx⟩
  · obtain rfl := Option.some.inj ((congrArg Prod.fst hv).symm.trans hr')
    rw [hkept hm hr hrun] at hx
    exact ⟨r, hr, hx⟩
  · refine ⟨r, hr, ?_⟩
    obtain rfl : r₁.set mode m'.refresh.2 = r' := Option.some.inj ((congrArg Prod.fst hv).symm.trans hr')
    have hkept : r₁.normal = r.normal := hr₁ ▸ hkept hm hr hrun
    cases mode with
    | accessPoint =>
      have hx : r₁.normal.Stranded := hx
      rw [← hkept]
      exact hx
    | normal =>
      have hx : m'.Stranded := ModeState.Stranded.of_refresh hx
      have hget : r₁.get .normal = r.normal := hkept
      rw [hget] at hstop
      cases result with
      | error err =>
        obtain ⟨-, -, rfl, -⟩ := Link.stop_error _ hstop.symm
        exact hx
      | ok u =>
        have hsome := hcarried r hr .normal (Status.ne_of_isRunning hrun)
        rcases Link.stop_ok_fst _ hstop.symm with ⟨hnone, -⟩ | ⟨-, -, -, hs⟩
        · have hsome : r.normal.carrier.isSome = true := hsome
          rw [hnone] at hsome
          cases hsome
        · rw [hx.1.1] at hs
          rcases hs with hs | hs <;> cases hs

theorem stranded_step (hl : ∀ r, s.roster.modes = some r → r.Labelled)
    (h : ∀ r, s.roster.modes = some r → r.Consistent (some false))
    (hcarried : ∀ r, s.roster.modes = some r → ∀ mode, (r.get mode).Carried) {mv : Move (Recorded σ) τ}
    (hok : M.Unhindered s mv) (hfree : ¬ s.Stranded) : ¬ (M.recorded.step mv s).Stranded := by
  obtain ⟨hcap, hpre, hrefused⟩ := hok
  intro hx
  by_cases hcalm : mv.isCalm = true
  · obtain ⟨r', hr', hx⟩ := hx
    cases hr : s.roster.modes with
    | none =>
      obtain ⟨_, hi⟩ := fresh_step hr mv hr'
      obtain ⟨_, _, hnew⟩ := get_ofInterfaces? hi .normal
      have hnew : r'.normal = _ := hnew
      rw [hnew] at hx
      cases hx.1.1
    | some r =>
      obtain ⟨listening, hb⟩ := calm_step (hl r hr) hr hcalm hr' .normal
      have hb : r'.normal = { r.normal with listening } := hb
      rw [hb] at hx
      exact hfree ⟨r, hr, hx⟩
  · cases mv with
    | start hd source => exact hfree (stranded_start hl hx)
    | stop hd => exact hfree (stranded_stop hl hcarried hpre hx)
    | event name event =>
      obtain ⟨r', hr', hx⟩ := hx
      cases hr : s.roster.modes with
      | none =>
        have hsame : M.recorded.step (.event name event) s = s := receive_of_none hr name event
        rw [hsame] at hr'
        exact hfree ⟨r', hr', hx⟩
      | some r =>
        refine hrefused (refused_receive hr (hl r hr) (h r hr) hcap ?_ (fun hx => hfree ⟨r, hr, hx⟩) hr' hx)
        rintro rfl
        simpa [forewarns, hr] using hpre
    | _ => exact absurd rfl hcalm

/-! ## The latest attempt -/

theorem client_start {M : ControlPlane σ τ} {s : State σ τ} (hl : ∀ r, s.roster.modes = some r → r.Labelled)
    (h : Handle) (source : ParameterSource) :
    (M.start h source s).2.client? = s.client? ∨ (M.start h source s).2.client? = none := by
  rcases start_cases (M := M) hl h source with ⟨_, -, hv⟩ | ⟨mode, r, m, -, hr, -, hv, hm⟩
  · refine .inl ?_
    unfold State.client?
    rw [hv]
  · rw [State.client?_eq hr, State.client?_eq hv]
    cases mode with
    | accessPoint => exact .inl rfl
    | normal =>
      refine .inr ?_
      show m.client = none
      rcases hm with ⟨-, rfl⟩ | ⟨-, c, p, rfl, -⟩
      · rfl
      · rw [ModeState.begun, ModeState.refresh_snd]
        rfl

theorem client_stop {M : ControlPlane σ τ} {s : State σ τ} (hl : ∀ r, s.roster.modes = some r → r.Labelled)
    {r : Modes} (hr : s.roster.modes = some r) (h : Handle) :
    (M.stop h s).2.client? = s.client? ∨ (M.stop h s).2.client? = none := by
  rw [State.client?_eq hr]
  have hkept {r₁ : Modes} (hsur : Surrendered r r₁) :
      r₁.normal.client = r.normal.client ∨ r₁.normal.client = none := by
    rcases hsur .normal with hs | hs
    · exact .inl (congrArg ModeState.client hs)
    · exact .inr (congrArg ModeState.client hs)
  rcases modes_stop (M := M) hl hr h with
    ⟨_, r₁, -, hsur, hv⟩ | ⟨mode, r₁, e, ⟨result, m', e'⟩, -, -, hsur, hx, -, hv⟩
  · rw [State.client?_eq hv]
    exact hkept hsur
  · rw [State.client?_eq hv]
    have hkept := hkept hsur
    cases mode with
    | accessPoint => exact hkept
    | normal =>
      show m'.refresh.2.client = _ ∨ m'.refresh.2.client = none
      rw [ModeState.refresh_snd]
      cases result with
      | error err =>
        obtain ⟨-, -, rfl, -⟩ := Link.stop_error _ hx
        exact hkept
      | ok u =>
        rcases Link.stop_ok_fst _ hx with ⟨-, rfl⟩ | ⟨hnone, -⟩
        · exact hkept
        · exact .inr hnone

/-- A move that is no event leaves the client as it is, or takes its session. -/
theorem client_passive {M : ControlPlane σ τ} {s : State σ τ} (hl : ∀ r, s.roster.modes = some r → r.Labelled)
    {mv : Move σ τ} (hn : ∀ name event, mv ≠ .event name event) :
    (M.step mv s).client? = s.client? ∨ (M.step mv s).client? = none := by
  by_cases hcalm : mv.isCalm = true
  · exact client_calm hl hcalm
  · cases hr : s.roster.modes with
    | none => exact .inr (client_fresh hr mv)
    | some r =>
      cases mv with
      | start hd source => exact client_start hl hd source
      | stop hd => exact client_stop hl hr hd
      | event name event => exact absurd rfl (hn name event)
      | _ => exact absurd rfl hcalm

/-- A move without an attempt leaves the client as it is, or takes its session. -/
theorem client_step (hl : ∀ r, s.roster.modes = some r → r.Labelled) {b : Bool}
    (h : ∀ r, s.roster.modes = some r → r.Consistent (some b)) {mv : Move (Recorded σ) τ}
    (hidle : (M.recorded.step mv s).env.attempts = s.env.attempts) :
    (M.recorded.step mv s).client? = s.client? ∨ (M.recorded.step mv s).client? = none := by
  cases mv with
  | event name event =>
    cases hr : s.roster.modes with
    | none => exact .inr (client_fresh hr _)
    | some r =>
      obtain ⟨r', hr', ht⟩ := tended_receive (M := M) hr (hl r hr) (h r hr) name event
      have hidle : (M.recorded.receive name event s).env.attempts = s.env.attempts := hidle
      show (M.recorded.receive name event s).client? = _ ∨ (M.recorded.receive name event s).client? = none
      rw [State.client?_eq hr', State.client?_eq hr]
      cases ht with
      | idle hc => exact hc
      | tried _ _ _ _ _ _ ha =>
        rw [ha] at hidle
        exact absurd hidle (List.cons_ne_self _ _)
  | _ => exact client_passive hl (by rintro _ _ ⟨⟩)

theorem client_run {env : Env (Recorded σ)} {store : τ} {s₁ : State (Recorded σ) τ}
    (h₁ : M.recorded.Reach (fun s _ => M.recorded.capability s = false) (M.recorded.initial env store) s₁)
    (hs : M.recorded.Reach M.Unattempted s₁ s) : s.client? = s₁.client? ∨ s.client? = none := by
  induction hs with
  | refl => exact .inl rfl
  | step mv hs hok ih =>
    have hreach := h₁.trans (hs.mono fun _ _ hok => hok.1)
    rcases client_step (hreach.labelled rfl) (fun r hr => (reach_orderly hreach hr).1) hok.2 with h | h
    · rw [h]
      exact ih
    · exact .inr h

/-- Without a lease the latest attempt was a request, and it is remembered with its reading. -/
theorem remembers_latest {env : Env (Recorded σ)} {store : τ} {s₀ : State (Recorded σ) τ} {p : Phase}
    {c : Client}
    (h₀ : M.recorded.Reach (fun s _ => M.recorded.capability s = false) (M.recorded.initial env store) s₀)
    (hcap : M.recorded.capability s₀ = false) (hp : M.Tries p s₀ (.event name event))
    (hs : M.recorded.Reach M.Unattempted (M.recorded.receive name event s₀) s) (hc : s.client? = some c)
    (hl : c.lease = none) : c.failures.request = some s₀.env.now := by
  have hsame : (M.recorded.receive name event s₀).client? = some c := by
    rcases client_run (.step (.event name event) h₀ hcap) hs with h | h <;> rw [hc] at h
    · exact h.symm
    · cases h
  have hp : s₀.env.attempts.count p < (M.recorded.receive name event s₀).env.attempts.count p := hp
  cases hr : s₀.roster.modes with
  | none =>
    rw [receive_of_none hr] at hp
    exact absurd hp (Nat.lt_irrefl _)
  | some r =>
    have hcons := (reach_orderly h₀ hr).1
    obtain ⟨r', hr', ht⟩ := tended_receive (M := M) hr (h₀.labelled rfl r hr) hcons name event
    have hone := ht.attempts_of_count hp
    rw [State.client?_eq hr'] at hsame
    generalize (M.recorded.receive name event s₀).env = e' at ht hone
    cases ht with
    | idle _ ha =>
      rw [ha] at hone
      exact absurd hone (List.cons_ne_self _ _).symm
    | tried q _ _ hq ht hc' _ =>
      obtain rfl := Option.some.inj (hc'.symm.trans hsame)
      cases ht with
      | granted => cases hl
      | failed failure =>
        obtain rfl := hq.mpr (Client.lease_failed_eq_none.mp hl)
        rfl

/-! ## Retries -/

/-- A failed request that is long enough ago is made again. -/
theorem tries_of_rested {b : Bool} {c : Client} (hr : s.roster.modes = some r) (h : r.Consistent (some b))
    (hname : r.normal.carrierName? = some name) (hc : r.normal.client = some c) (hl : c.lease = none)
    (hrested : c.Rested .request s.env.now M.policy.retryNanos) : M.Tries .request s (.event name .tick) := by
  have k := h.normal.session c hc
  have ha : r.normal.accepts name = true := ModeState.accepts_iff.mpr ⟨k.not_disconnected, hname⟩
  obtain ⟨_, -, -, henv⟩ := receive_tick (M := M.recorded) hr h.accessPoint name
  have hmay := Client.mayTry_iff.mpr hrested
  have htick := Link.tick_due (P := M.platform) M.policy.retryNanos h.normal hc hname s.env
  rw [Client.due_of_no_lease hl, if_pos hmay] at htick
  have hone := Link.attempts_of_trial (Link.askForLease_tried (P := M.platform) name hc s.env).2
  show s.env.attempts.count .request < (M.recorded.receive name .tick s).env.attempts.count .request
  rw [henv, reaction_tick ha]
  show s.env.attempts.count .request <
    (Link.tick M.platform.recorded M.policy.retryNanos r.normal s.env).2.attempts.count .request
  rw [htick]
  simp only
  rw [hone, List.count_cons_self]
  omega

/-- Where the platform runs no DHCP client of its own: from a state that is not stranded, and while the event
    ahead of a teardown keeps away and no session is refused, a connection that awaits a lease has a
    session, in which the latest attempt is remembered as a failed request. A tick after the retry interval
    requests a lease again. -/
theorem reach_retried {env : Env (Recorded σ)} {store : τ} {s₁ : State (Recorded σ) τ}
    (h₁ : M.recorded.Reach (fun s _ => M.recorded.capability s = false) (M.recorded.initial env store) s₁)
    (hfree : ¬ s₁.Stranded) (hs : M.recorded.Reach M.Unhindered s₁ s) (hr : s.roster.modes = some r)
    (hwait : r.normal.AwaitsLease) (hname : r.normal.carrierName? = some name) :
    ∃ c t, r.normal.client = some c ∧ c.lease = none ∧ c.failures.request = some t ∧
      (t + M.policy.retryNanos ≤ s.env.now → M.Tries .request s (.event name .tick)) ∧
      ∀ s₀ p name₀ event,
        M.recorded.Reach (fun s _ => M.recorded.capability s = false) (M.recorded.initial env store) s₀ →
        M.recorded.capability s₀ = false → M.Tries p s₀ (.event name₀ event) →
        M.recorded.Reach M.Unattempted (M.recorded.receive name₀ event s₀) s → t = s₀.env.now := by
  have hreach {s : State (Recorded σ) τ} (hs : M.recorded.Reach M.Unhindered s₁ s) :
      M.recorded.Reach (fun s _ => M.recorded.capability s = false) (M.recorded.initial env store) s :=
    h₁.trans (hs.mono fun _ _ hok => hok.1)
  have hstranded : ¬ s.Stranded := by
    clear hr
    induction hs with
    | refl => exact hfree
    | step mv hs hok ih =>
      have hs := hreach hs
      exact stranded_step (hs.labelled rfl) (fun r hr => (reach_orderly hs hr).1)
        (fun r hr => reach_carried rfl hs hr) hok ih
  obtain ⟨h, ho⟩ := reach_orderly (hreach hs) hr
  cases hc : r.normal.client with
  | none => exact absurd ⟨r, hr, hwait, hc⟩ hstranded
  | some c =>
    have hl : c.lease = none := by
      by_contra hl
      have hconnected := (h.normal.session c hc).leased (Option.isSome_iff_ne_none.mpr hl)
      rw [hwait.1] at hconnected
      cases hconnected
    obtain ⟨t, ht⟩ := Option.isSome_iff_exists.mp ((ho c hc).waiting.mpr hl)
    refine ⟨c, t, rfl, hl, ht, fun hlate => ?_, fun s₀ p name₀ event h₀ hcap hp hs₀ => ?_⟩
    · refine tries_of_rested hr h hname hc hl fun failed hf => ?_
      obtain rfl : t = failed := Option.some.inj (ht.symm.trans hf)
      omega
    · have hlatest := remembers_latest h₀ hcap hp hs₀ ((State.client?_eq hr).trans hc) hl
      exact Option.some.inj (ht.symm.trans hlatest)

end ControlPlane

namespace Camera

open Simulation ControlPlane

/-- The next session is refused. -/
def refuse (b : Board) : Board :=
  { b with faults := b.faults.insert .openSession [⟨.interface "dhcp_client_open" "wlan0" "busy", 0⟩] }

/-- However long ago a session was refused, a tick does not ask for one again. -/
theorem a_refused_session_is_not_asked_for_again :
    ¬ ∀ (s : State (Recorded Board) Shelf) (r : Modes) (name : String),
      plane.recorded.Reach (fun s' mv => plane.recorded.capability s' = false ∧
        plane.recorded.forewarns s' mv = false ∧ s'.env.now + plane.policy.retryNanos ≤ 60 * second) recording s →
      60 * second ≤ s.env.now → s.roster.modes = some r → r.normal.AwaitsLease →
      r.normal.carrierName? = some name →
      (plane.recorded.receive name .tick s).env.calls ≠ s.env.calls := by
  intro hretried
  let mvs : List (Move (Recorded Board) Shelf) :=
    switchOn ++ [.start normal (.given home), .outside (fun x => { x with inner := refuse x.inner }) id 0,
      .event "wlan0" .stationConnected, .outside id id (60 * second)]
  have hs : (plane.recorded.run mvs recording).roster.modes.any (fun r =>
      decide (r.normal.AwaitsLease ∧ r.normal.carrierName? = some "wlan0")) = true := by decide +kernel
  obtain ⟨r, hr, hd⟩ := (Option.any_eq_true _ _).mp hs
  obtain ⟨hwait, hname⟩ := of_decide_eq_true hd
  have hidle : (plane.recorded.receive "wlan0" .tick (plane.recorded.run mvs recording)).env.calls =
      (plane.recorded.run mvs recording).env.calls := by decide +kernel
  exact hretried _ r "wlan0" (reach_run (by decide +kernel)) (by decide +kernel) hr hwait hname hidle

/-- No server answers the next request. -/
def unanswered (b : Board) : Board :=
  { b with inner := { b.inner with script := [.error (.dhcp "request" .timeout "no answer")] } }

/-- A request that no server answers is made again a minute later. -/
theorem unanswered_retried :
    let s := plane.recorded.run
      (switchOn ++ [.start normal (.given home), .outside (fun x => { x with inner := unanswered x.inner }) id 0,
        .event "wlan0" .stationConnected, .outside id id (60 * second)]) recording
    plane.Tries .request s (.event "wlan0" .tick) ∧
    ∃ r c t, s.roster.modes = some r ∧ r.normal.AwaitsLease ∧ r.normal.client = some c ∧ c.lease = none ∧
      c.failures.request = some t ∧
      (t + plane.policy.retryNanos ≤ s.env.now → plane.Tries .request s (.event "wlan0" .tick)) ∧
      ∀ s₀ p name₀ event,
        plane.recorded.Reach (fun s _ => plane.recorded.capability s = false) recording s₀ →
        plane.recorded.capability s₀ = false → plane.Tries p s₀ (.event name₀ event) →
        plane.recorded.Reach plane.Unattempted (plane.recorded.receive name₀ event s₀) s → t = s₀.env.now := by
  intro s
  have hs : s.roster.modes.any (fun r =>
      decide (r.normal.AwaitsLease ∧ r.normal.carrierName? = some "wlan0")) = true := by decide +kernel
  obtain ⟨r, hr, hd⟩ := (Option.any_eq_true _ _).mp hs
  obtain ⟨hwait, hname⟩ := of_decide_eq_true hd
  have hfree : ¬ (recording : State (Recorded Board) Shelf).Stranded := by
    rintro ⟨r, hr, -⟩
    cases hr
  obtain ⟨c, t, hc, hl, ht, hretry, hlatest⟩ :=
    reach_retried (M := plane) .refl hfree (reach_run (by decide +kernel)) hr hwait hname
  exact ⟨by decide +kernel, r, c, t, hr, hwait, hc, hl, ht, hretry, hlatest⟩

end Camera

end Connectivity
