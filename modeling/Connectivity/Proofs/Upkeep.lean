/-
  Connectivity.Proofs.Upkeep — a tick does what a lease needs, and nothing else.
  - `Upkeep`: the calls of one tick, told by what its session holds and how old that is. Nothing else
    about the state has a say: the checks of status and flags that a tick makes always pass.
  - `rested_of_tick`: a tick tries a phase only if it never failed, or long enough ago.
  - `recalls_step`: in a run of ticks a failure is remembered until a lease is got, so the next attempt
    of its phase keeps the interval.
-/

import Connectivity.Proofs.Attempts

namespace Connectivity

/-! ## What is due -/

namespace Client

variable {c : Client} {now retry : Nat}

/-- A phase has not failed, or long enough ago. -/
def Rested (c : Client) (p : Phase) (now retry : Nat) : Prop :=
  ∀ failed, c.failures.at? p = some failed → retry ≤ now - failed

theorem mayTry_iff {p : Phase} : c.mayTry p now retry = true ↔ c.Rested p now retry := by
  unfold mayTry Rested
  cases c.failures.at? p with
  | none => simp
  | some failed => simp

theorem due_of_no_lease (hl : c.lease = none) :
    c.due now retry = if c.mayTry .request now retry then .request else .idle := by
  unfold due
  rw [hl]

variable {t : Timers}

/-- A request is due only without a lease. -/
theorem due_ne_request (hl : c.lease = some t) : c.due now retry ≠ .request := by
  intro hdue
  unfold due at hdue
  rw [hl] at hdue
  simp only at hdue
  (repeat' split at hdue) <;> cases hdue

theorem mayTry_of_due_renew {mode : Renewal} (hdue : c.due now retry = .renew mode) :
    c.mayTry mode.phase now retry = true := by
  unfold due at hdue
  cases hl : c.lease with
  | none =>
    rw [hl] at hdue
    simp only at hdue
    split at hdue <;> cases hdue
  | some t =>
    rw [hl] at hdue
    simp only at hdue
    (repeat' split at hdue) <;> cases hdue <;> assumption

theorem due_of_lost (hl : c.lease = some t) (h : t.isWithdrawn = true ∨ nanos t.lease ≤ now - c.updatedAt) :
    c.due now retry = .recover := by
  unfold due
  rw [hl]
  simp only
  by_cases hw : t.isWithdrawn = true
  · rw [if_pos hw]
  · rw [if_neg hw, if_pos (h.resolve_left hw)]

theorem not_withdrawn (h : now - c.updatedAt < nanos t.lease) : ¬ t.isWithdrawn = true := by
  intro hw
  rw [decide_eq_true_eq.mp hw] at h
  exact absurd h (Nat.not_lt_zero _)

theorem nanos_lt {x y : UInt32} (h : x.toNat < y.toNat) : nanos x < nanos y :=
  Nat.mul_lt_mul_of_pos_left h (by decide)

theorem due_of_rebinding (hl : c.lease = some t) (h2 : nanos t.rebinding ≤ now - c.updatedAt)
    (h : now - c.updatedAt < nanos t.lease) :
    c.due now retry = if c.mayTry .rebind now retry then .renew .rebind else .idle := by
  unfold due
  rw [hl]
  simp only
  rw [if_neg (not_withdrawn h), if_neg (Nat.not_le_of_lt h), if_pos h2]

theorem due_of_renewing (ht : t.Increasing) (hl : c.lease = some t) (h1 : nanos t.renewal ≤ now - c.updatedAt)
    (h2 : now - c.updatedAt < nanos t.rebinding) :
    c.due now retry = if c.mayTry .renew now retry then .renew .unicast else .idle := by
  have h : now - c.updatedAt < nanos t.lease := Nat.lt_trans h2 (nanos_lt ht.2.2)
  unfold due
  rw [hl]
  simp only
  rw [if_neg (not_withdrawn h), if_neg (Nat.not_le_of_lt h), if_neg (Nat.not_le_of_lt h2), if_pos h1]

theorem due_of_current (ht : t.Increasing) (hl : c.lease = some t) (h1 : now - c.updatedAt < nanos t.renewal) :
    c.due now retry = .idle := by
  have h2 : now - c.updatedAt < nanos t.rebinding := Nat.lt_trans h1 (nanos_lt ht.2.1)
  have h : now - c.updatedAt < nanos t.lease := Nat.lt_trans h2 (nanos_lt ht.2.2)
  unfold due
  rw [hl]
  simp only
  rw [if_neg (not_withdrawn h), if_neg (Nat.not_le_of_lt h), if_neg (Nat.not_le_of_lt h2),
    if_neg (Nat.not_le_of_lt h1)]

end Client

/-- Without a lease a mode waits for one. -/
theorem ModeState.Holds.connecting {m : ModeState} {c : Client} {b : Bool} (h : m.Holds (some b) c)
    (hl : c.lease = none) : m.status = .connecting := by
  rcases h.running with hs | hs
  · exact hs
  · have hsome := (h.connectedByLease b rfl).2 hs
    rw [hl] at hsome
    cases hsome

/-! ## Ticks -/

section
variable {σ : Type}

/-- The calls are one attempt of a phase if that is rested, and none if not. -/
def Throttled (P : Platform σ) (retry : Nat) (name : String) (e : Env (Recorded σ)) (c : Client) (p : Phase)
    (made : List PlatformCall) : Prop :=
  (c.Rested p e.now retry → made = trial P name p c.session e.platform.inner) ∧
    (¬ c.Rested p e.now retry → made = [])

/-- The calls of a tick of the mode's interface, the latest first. -/
structure Upkeep (P : Platform σ) (retry : Nat) (name : String) (m : ModeState) (e : Env (Recorded σ))
    (made : List PlatformCall) : Prop where
  noSession : m.client = none → made = []
  waiting : ∀ c, m.client = some c → c.lease = none →
    (m.status = .connecting ∧ m.ifUp = true ∧ m.linkUp = true) ∧ Throttled P retry name e c .request made
  /-- The lease was withdrawn or has run out. The address is cleared before one is requested. -/
  lost : ∀ c t, m.client = some c → c.lease = some t →
    t.isWithdrawn = true ∨ Client.nanos t.lease ≤ e.now - c.updatedAt →
    made = trial P name .request c.session (P.setAddress name .unspecified e.platform.inner).2 ++
      [.setAddress name .unspecified]
  rebinding : ∀ c t, m.client = some c → c.lease = some t →
    Client.nanos t.rebinding ≤ e.now - c.updatedAt → e.now - c.updatedAt < Client.nanos t.lease →
    m.status = .connected ∧ Throttled P retry name e c .rebind made
  renewing : ∀ c t, m.client = some c → c.lease = some t →
    Client.nanos t.renewal ≤ e.now - c.updatedAt → e.now - c.updatedAt < Client.nanos t.rebinding →
    m.status = .connected ∧ Throttled P retry name e c .renew made
  current : ∀ c t, m.client = some c → c.lease = some t → t.isWithdrawn = false →
    e.now - c.updatedAt < Client.nanos t.renewal → made = []

theorem Upkeep.of_no_client {P : Platform σ} {retry : Nat} {name : String} {m : ModeState} {e : Env (Recorded σ)}
    (hc : m.client = none) : Upkeep P retry name m e [] where
  noSession _ := rfl
  waiting _ h := absurd (hc.symm.trans h) nofun
  lost _ _ h := absurd (hc.symm.trans h) nofun
  rebinding _ _ h := absurd (hc.symm.trans h) nofun
  renewing _ _ h := absurd (hc.symm.trans h) nofun
  current _ _ h := absurd (hc.symm.trans h) nofun

namespace Link

variable {P : Platform σ} {m : ModeState} {e : Env (Recorded σ)} {b : Bool} {retry : Nat} {name : String}

/-- A tick of a mode with a session hangs on what is due alone. -/
theorem tick_due (retry : Nat) (h : m.Consistent (some b)) {c : Client} (hc : m.client = some c)
    (hname : m.carrierName? = some name) (e : Env (Recorded σ)) :
    tick P.recorded retry m e =
      match c.due e.now retry with
      | .idle => (m, e)
      | .request => askForLease P.recorded name m e
      | .renew mode => extendLease P.recorded name mode m e
      | .recover => startOver P.recorded name m e := by
  have k := h.session c hc
  have hnd : m.status ≠ .disconnecting := by
    rcases k.running with hs | hs <;> rw [hs] <;> decide
  rw [tick_eq retry hnd hc hname]
  cases hl : c.lease with
  | none =>
    have hs := k.connecting hl
    rw [Client.due_of_no_lease hl]
    by_cases hmay : c.mayTry .request e.now retry = true
    · simp [hmay, hs, k.up.1, k.up.2]
    · simp [hmay]
  | some t =>
    have hs : m.status = .connected := k.leased (by rw [hl]; rfl)
    cases hdue : c.due e.now retry with
    | idle => rfl
    | request => exact absurd hdue (Client.due_ne_request hl)
    | renew mode => simp [hs]
    | recover => rfl

/-- A phase that is due makes its attempt, if it is rested. -/
theorem throttled_of_due {c : Client} {p : Phase} {made : List PlatformCall} {x : ModeState × Env (Recorded σ)}
    (hmade : x.2.calls = made ++ e.calls) (hidle : c.mayTry p e.now retry = false → x = (m, e))
    (htry : c.mayTry p e.now retry = true →
      x.2.calls = trial P name p c.session e.platform.inner ++ e.calls) :
    Throttled P retry name e c p made := by
  constructor
  · intro hr
    have hcalls := htry (Client.mayTry_iff.mpr hr)
    exact List.append_cancel_right (hmade.symm.trans hcalls)
  · intro hr
    have hmay : c.mayTry p e.now retry = false := eq_false_of_ne_true fun hmay => hr (Client.mayTry_iff.mp hmay)
    rw [hidle hmay] at hmade
    exact List.append_cancel_right hmade.symm

theorem upkeep_tick (h : m.Consistent (some b)) (ho : m.Orderly) (hname : m.carrierName? = some name)
    {made : List PlatformCall} (hmade : (tick P.recorded retry m e).2.calls = made ++ e.calls) :
    Upkeep P retry name m e made where
  noSession hc := by
    rw [tick_of_no_client retry hc] at hmade
    exact List.append_cancel_right hmade.symm
  waiting c hc hl := by
    have k := h.session c hc
    have hdue := tick_due (P := P) retry h hc hname e
    rw [Client.due_of_no_lease hl] at hdue
    refine ⟨⟨k.connecting hl, k.up⟩, throttled_of_due (m := m) hmade (fun hmay => ?_) fun hmay => ?_⟩
    · rw [hdue, hmay]
      rfl
    · rw [hdue, hmay]
      exact (askForLease_tried name hc e).2
  lost c t hc hl hlost := by
    have hdue := tick_due (P := P) retry h hc hname e
    rw [Client.due_of_lost hl hlost] at hdue
    simp only at hdue
    rw [hdue, (startOver_tried name hc e).2] at hmade
    have hcalls : made ++ e.calls =
        (trial P name .request c.session (P.setAddress name .unspecified e.platform.inner).2 ++
          [.setAddress name .unspecified]) ++ e.calls := by
      rw [← hmade, List.append_assoc]
      rfl
    exact List.append_cancel_right hcalls
  rebinding c t hc hl h2 hlt := by
    have k := h.session c hc
    have hdue := tick_due (P := P) retry h hc hname e
    rw [Client.due_of_rebinding hl h2 hlt] at hdue
    refine ⟨k.leased (by rw [hl]; rfl), throttled_of_due (m := m) hmade (fun hmay => ?_) fun hmay => ?_⟩
    · rw [hdue, hmay]
      rfl
    · rw [hdue, hmay]
      exact (extendLease_tried name .rebind hc e).2
  renewing c t hc hl h1 h2 := by
    have k := h.session c hc
    have ht : t.Increasing := by
      refine ((ho c hc).timers t hl).resolve_left ?_
      rintro rfl
      exact absurd h2 (Nat.not_lt_zero _)
    have hdue := tick_due (P := P) retry h hc hname e
    rw [Client.due_of_renewing ht hl h1 h2] at hdue
    refine ⟨k.leased (by rw [hl]; rfl), throttled_of_due (m := m) hmade (fun hmay => ?_) fun hmay => ?_⟩
    · rw [hdue, hmay]
      rfl
    · rw [hdue, hmay]
      exact (extendLease_tried name .unicast hc e).2
  current c t hc hl hw h1 := by
    have ht : t.Increasing := by
      refine ((ho c hc).timers t hl).resolve_left ?_
      rintro rfl
      cases hw
    have hdue := tick_due (P := P) retry h hc hname e
    rw [Client.due_of_current ht hl h1] at hdue
    rw [hdue] at hmade
    exact List.append_cancel_right hmade.symm

/-- A tick tries a phase only if that is rested. A failed request is no hindrance to a recovery, but
    none is remembered where there is a lease to lose. -/
theorem rested_of_tick (h : m.Consistent (some b)) (ho : m.Orderly) (hname : m.carrierName? = some name)
    {c : Client} (hc : m.client = some c) {p : Phase} (hp : (tick P.recorded retry m e).2.attempts = p :: e.attempts) :
    c.Rested p e.now retry := by
  rw [tick_due retry h hc hname e] at hp
  have hhead {q : Phase} {e' : Env (Recorded σ)} (ha : e'.attempts = q :: e.attempts)
      (hp : e'.attempts = p :: e.attempts) : q = p := by
    rw [ha] at hp
    exact (List.cons.inj hp).1
  cases hl : c.lease with
  | none =>
    rw [Client.due_of_no_lease hl] at hp
    by_cases hmay : c.mayTry .request e.now retry = true
    · rw [if_pos hmay] at hp
      obtain rfl := hhead (attempts_of_trial (askForLease_tried name hc e).2) hp
      exact Client.mayTry_iff.mp hmay
    · rw [if_neg hmay] at hp
      exact absurd hp (List.cons_ne_self _ _).symm
  | some t =>
    cases hdue : c.due e.now retry with
    | idle =>
      rw [hdue] at hp
      exact absurd hp (List.cons_ne_self _ _).symm
    | request => exact absurd hdue (Client.due_ne_request hl)
    | renew mode =>
      rw [hdue] at hp
      obtain rfl := hhead (attempts_of_trial (extendLease_tried name mode hc e).2) hp
      exact Client.mayTry_iff.mp (Client.mayTry_of_due_renew hdue)
    | recover =>
      rw [hdue] at hp
      obtain rfl := hhead (attempts_startOver name hc e) hp
      intro failed hf
      have hnone := (ho c hc).waiting.mp (Option.isSome_iff_exists.mpr ⟨failed, hf⟩)
      rw [hl] at hnone
      cases hnone

end Link

/-! ## Memory -/

/-- A failure of the phase at the reading, or a later one, is remembered as long as there is a session. -/
def Recalls (p : Phase) (t : Nat) (client : Option Client) : Prop :=
  ∀ c, client = some c → ∃ failed, c.failures.at? p = some failed ∧ t ≤ failed

theorem recalls_none (p : Phase) (t : Nat) : Recalls p t none := nofun

namespace Link.Tended

variable {m : ModeState} {e : Env (Recorded σ)} {x : ModeState × Env (Recorded σ)} {p : Phase}

/-- An attempt of the phase is the only one. -/
theorem attempts_of_count (h : Tended m e x) (hp : e.attempts.count p < x.2.attempts.count p) :
    x.2.attempts = p :: e.attempts := by
  cases h with
  | idle _ ha =>
    rw [ha] at hp
    exact absurd hp (Nat.lt_irrefl _)
  | tried q _ _ _ _ _ ha =>
    rw [ha] at hp
    by_cases hq : q = p
    · exact hq ▸ ha
    · rw [List.count_cons_of_ne hq] at hp
      exact absurd hp (Nat.lt_irrefl _)

/-- An attempt that gets no lease is remembered with its reading. -/
theorem recalls_now (h : Tended m e x) (hp : x.2.attempts = p :: e.attempts)
    (hn : ∀ c, x.1.client = some c → ¬ c.Renewed e.now) : Recalls p e.now x.1.client := by
  cases h with
  | idle _ ha =>
    rw [ha] at hp
    exact absurd hp (List.cons_ne_self _ _).symm
  | tried q _ _ _ ht hc' ha =>
    obtain rfl : q = p := (List.cons.inj (ha.symm.trans hp)).1
    intro c hc
    obtain rfl := Option.some.inj (hc'.symm.trans hc)
    exact ⟨e.now, (ht.remembered (hn _ hc) q).trans (if_pos rfl), Nat.le_refl _⟩

/-- What is remembered in a session stays so while no lease is got, if an attempt of the phase comes no
    earlier. -/
theorem recalls (h : Tended m e x) {c₀ : Client} (hc₀ : m.client = some c₀) {t : Nat}
    (hm : Recalls p t m.client) (hlate : x.2.attempts = p :: e.attempts → t ≤ e.now)
    (hn : x.2.attempts ≠ e.attempts → ∀ c, x.1.client = some c → ¬ c.Renewed e.now) :
    Recalls p t x.1.client := by
  cases h with
  | idle hc =>
    rcases hc with hc | hc <;> rw [hc]
    · exact hm
    · exact recalls_none p t
  | tried q _ hsame _ ht hc' ha =>
    intro c hc
    have hfailed := ht.remembered (hn (by rw [ha]; exact List.cons_ne_self _ _) _ hc')
    obtain rfl := Option.some.inj (hc'.symm.trans hc)
    by_cases hq : q = p
    · exact ⟨e.now, (hfailed p).trans (if_pos hq), hlate (hq ▸ ha)⟩
    · obtain ⟨failed, hf, hle⟩ := hm c₀ hc₀
      refine ⟨failed, ?_, hle⟩
      rw [hfailed p, if_neg hq, hsame c₀ hc₀, hf]

end Link.Tended

end

/-! ## Runs -/

/-- A tick, or a call that neither connects nor disconnects. -/
def ControlPlane.Move.isTickOrCalm {σ τ : Type} : ControlPlane.Move σ τ → Bool
  | .event _ .tick => true
  | mv => mv.isCalm

namespace ControlPlane

variable {σ τ : Type} (M : ControlPlane σ τ)

/-- The client of the session that the normal mode holds. -/
def State.client? (s : State σ τ) : Option Client := s.roster.modes.bind (·.normal.client)

/-- The move makes an attempt of the phase. -/
def Tries (p : Phase) (s : State (Recorded σ) τ) (mv : Move (Recorded σ) τ) : Prop :=
  s.env.attempts.count p < (M.recorded.step mv s).env.attempts.count p

/-- The move makes an attempt, and that gets a lease. -/
def Gains (s : State (Recorded σ) τ) (mv : Move (Recorded σ) τ) : Prop :=
  (M.recorded.step mv s).env.attempts ≠ s.env.attempts ∧
    ∃ c ∈ (M.recorded.step mv s).client?, c.Renewed s.env.now

/-- The moves of a run of ticks that get no lease, while the platform says the same about a DHCP client of
    its own. -/
def Ticking (own : Bool) (s : State (Recorded σ) τ) (mv : Move (Recorded σ) τ) : Prop :=
  M.recorded.capability s = own ∧ mv.isTickOrCalm = true ∧ ¬ M.Gains s mv

instance (p : Phase) (s : State (Recorded σ) τ) (mv : Move (Recorded σ) τ) : Decidable (M.Tries p s mv) :=
  inferInstanceAs (Decidable (_ < _))

instance (s : State (Recorded σ) τ) (mv : Move (Recorded σ) τ) : Decidable (M.Gains s mv) :=
  inferInstanceAs (Decidable (_ ≠ _ ∧ ∃ c ∈ _, _))

instance (own : Bool) (s : State (Recorded σ) τ) (mv : Move (Recorded σ) τ) : Decidable (M.Ticking own s mv) :=
  inferInstanceAs (Decidable (_ ∧ _ ∧ _))

variable {M} {s : State (Recorded σ) τ} {r : Modes} {b : Bool} {p : Phase} {name : String}

theorem State.client?_eq {s : State σ τ} (hr : s.roster.modes = some r) : s.client? = r.normal.client := by
  simp [client?, hr]

/-- Modes that are set up hold no session. -/
theorem client_fresh {M : ControlPlane σ τ} {s : State σ τ} (hn : s.roster.modes = none) (mv : Move σ τ) :
    (M.step mv s).client? = none := by
  cases hr' : (M.step mv s).roster.modes with
  | none => simp [State.client?, hr']
  | some r' =>
    obtain ⟨_, hi⟩ := fresh_step hn mv hr'
    obtain ⟨_, _, hnew⟩ := get_ofInterfaces? hi .normal
    rw [State.client?_eq hr']
    exact congrArg ModeState.client hnew

theorem client_calm {M : ControlPlane σ τ} {s : State σ τ} (hl : ∀ r, s.roster.modes = some r → r.Labelled)
    {mv : Move σ τ} (hc : mv.isCalm = true) :
    (M.step mv s).client? = s.client? ∨ (M.step mv s).client? = none := by
  cases hr : s.roster.modes with
  | none => exact .inr (client_fresh hr mv)
  | some r =>
    cases hr' : (M.step mv s).roster.modes with
    | none => exact .inr (by simp [State.client?, hr'])
    | some r' =>
      obtain ⟨listening, hb⟩ := calm_step (hl r hr) hr hc hr' .normal
      have hb : r'.normal = { r.normal with listening } := hb
      rw [State.client?_eq hr', State.client?_eq hr, hb]
      exact .inl rfl

theorem upkeep_receive (hr : s.roster.modes = some r) (h : r.Consistent (some b)) (ho : r.normal.Orderly)
    (hname : r.normal.carrierName? = some name) :
    ∃ made, (M.recorded.receive name .tick s).env.calls = made ++ s.env.calls ∧
      Upkeep M.platform M.policy.retryNanos name r.normal s.env made := by
  obtain ⟨_, -, -, henv⟩ := receive_tick (M := M.recorded) hr h.accessPoint name
  rw [henv]
  cases hc : r.normal.client with
  | none =>
    have hidle : (M.recorded.reaction name .tick r.normal s.env).2 = s.env := by
      by_cases ha : r.normal.accepts name = true
      · rw [reaction_tick ha, Link.tick_of_no_client _ hc]
      · rw [reaction_of_not_accepts (eq_false_of_ne_true ha)]
    exact ⟨[], by rw [hidle]; rfl, .of_no_client hc⟩
  | some c =>
    have k := h.normal.session c hc
    have ha : r.normal.accepts name = true := ModeState.accepts_iff.mpr ⟨k.not_disconnected, hname⟩
    have hrun : r.normal.status.isRunning = true := Status.isRunning_iff.mpr k.running
    rw [reaction_tick ha]
    obtain ⟨made, hmade⟩ := Link.suffix_of_errands
      (Link.runsErrands_tick (P := M.platform.recorded) (e := s.env) M.policy.retryNanos hrun).2
    exact ⟨made, hmade.symm, Link.upkeep_tick h.normal ho hname hmade.symm⟩

/-- A tick that tries a phase does so in a session, where that is rested. -/
theorem rested_receive (hr : s.roster.modes = some r) (hl : r.Labelled) (h : r.Consistent (some b))
    (ho : r.normal.Orderly) (hp : M.Tries p s (.event name .tick)) :
    ∃ c, r.normal.client = some c ∧ c.Rested p s.env.now M.policy.retryNanos := by
  obtain ⟨_, -, ht⟩ := tended_receive (M := M) hr hl h name .tick
  have hone := ht.attempts_of_count hp
  obtain ⟨_, -, -, henv⟩ := receive_tick (M := M.recorded) hr h.accessPoint name
  rw [henv] at hone
  by_cases ha : r.normal.accepts name = true
  · rw [reaction_tick ha] at hone
    cases hc : r.normal.client with
    | none =>
      rw [Link.tick_of_no_client _ hc] at hone
      exact absurd hone (List.cons_ne_self _ _).symm
    | some c => exact ⟨c, rfl, Link.rested_of_tick h.normal ho (ModeState.accepts_iff.mp ha).2 hc hone⟩
  · rw [reaction_of_not_accepts (eq_false_of_ne_true ha)] at hone
    exact absurd hone (List.cons_ne_self _ _).symm

/-- No policy lets every tick try a failed phase. -/
theorem retryNanos_pos (M : ControlPlane σ τ) : 0 < M.policy.retryNanos := by
  have hne : M.policy.retryInterval ≠ 0 := (Policy.validate_eq_ok_iff.mp M.valid).2.1
  have hpos : 0 < M.policy.retryInterval.toNat :=
    Nat.pos_of_ne_zero fun h0 => hne (UInt64.toNat_inj.mp h0)
  exact Nat.mul_pos (by decide) hpos

/-- A failure that is remembered keeps the next attempt off. -/
theorem late_of_recalls {c : Client} {now t : Nat} (hc : r.normal.client = some c)
    (hrecall : Recalls p t r.normal.client) (hrested : c.Rested p now M.policy.retryNanos) :
    t + M.policy.retryNanos ≤ now := by
  obtain ⟨failed, hf, hle⟩ := hrecall c hc
  have hrest := hrested failed hf
  have hpos := retryNanos_pos M
  omega

/-- An attempt in answer to an event is remembered, if it gets no lease. -/
theorem recalls_of_tries (hl : ∀ r, s.roster.modes = some r → r.Labelled)
    (h : ∀ r, s.roster.modes = some r → r.Consistent (some b)) {event : Event}
    (hp : M.Tries p s (.event name event)) (hn : ¬ M.Gains s (.event name event)) :
    Recalls p s.env.now (M.recorded.receive name event s).client? := by
  cases hr : s.roster.modes with
  | none =>
    rw [State.client?, receive_of_none hr, hr]
    exact recalls_none p _
  | some r =>
    obtain ⟨r', hr', ht⟩ := tended_receive (M := M) hr (hl r hr) (h r hr) name event
    have hone := ht.attempts_of_count hp
    rw [State.client?_eq hr']
    refine ht.recalls_now hone fun c hc hg => hn ⟨?_, c, ?_, hg⟩
    · show (M.recorded.receive name event s).env.attempts ≠ s.env.attempts
      rw [hone]
      exact List.cons_ne_self _ _
    · show (M.recorded.receive name event s).client? = some c
      rw [State.client?_eq hr', hc]

theorem recalls_tick (hr : s.roster.modes = some r) (hl : r.Labelled) (h : r.Consistent (some b))
    (ho : r.normal.Orderly) {t : Nat} (hrecall : Recalls p t r.normal.client)
    (hn : ¬ M.Gains s (.event name .tick)) : Recalls p t (M.recorded.receive name .tick s).client? := by
  obtain ⟨r', hr', ht⟩ := tended_receive (M := M) hr hl h name .tick
  rw [State.client?_eq hr']
  cases hc₀ : r.normal.client with
  | none =>
    -- A tick opens no session.
    obtain ⟨r₁, hr₁, hn₁, -⟩ := receive_tick (M := M.recorded) hr h.accessPoint name
    obtain rfl : r₁ = r' := Option.some.inj (hr₁.symm.trans hr')
    have hnone : r₁.normal.client = none := by
      rw [hn₁]
      by_cases ha : r.normal.accepts name = true
      · rw [reaction_tick ha, Link.tick_of_no_client _ hc₀, ModeState.refresh_snd]
        exact hc₀
      · rw [reaction_of_not_accepts (eq_false_of_ne_true ha)]
        exact hc₀
    rw [hnone]
    exact recalls_none p t
  | some c₀ =>
    refine ht.recalls hc₀ hrecall (fun hone => ?_) fun hmade c hc hg => hn ⟨hmade, c, ?_, hg⟩
    · have hp : M.Tries p s (.event name .tick) := by
        show s.env.attempts.count p < (M.recorded.receive name .tick s).env.attempts.count p
        rw [hone, List.count_cons_self]
        omega
      obtain ⟨c, hc, hrested⟩ := rested_receive hr hl h ho hp
      have hlate := late_of_recalls hc hrecall hrested
      omega
    · show (M.recorded.receive name .tick s).client? = some c
      rw [State.client?_eq hr', hc]

/-- One move of a run of ticks. -/
theorem recalls_step (hl : ∀ r, s.roster.modes = some r → r.Labelled)
    (h : ∀ r, s.roster.modes = some r → r.Consistent (some b) ∧ r.normal.Orderly) {t : Nat}
    (hrecall : Recalls p t s.client?) {mv : Move (Recorded σ) τ} (hok : M.Ticking b s mv) :
    Recalls p t (M.recorded.step mv s).client? := by
  obtain ⟨-, hmv, hn⟩ := hok
  unfold Move.isTickOrCalm at hmv
  split at hmv
  · rename_i name
    cases hr : s.roster.modes with
    | none =>
      have hnone := client_fresh (M := M.recorded) hr (.event name .tick)
      rw [hnone]
      exact recalls_none p t
    | some r =>
      rw [State.client?_eq hr] at hrecall
      exact recalls_tick hr (hl r hr) (h r hr).1 (h r hr).2 hrecall hn
  · rcases client_calm (M := M.recorded) hl hmv with hsame | hnone
    · rw [hsame]
      exact hrecall
    · rw [hnone]
      exact recalls_none p t

/-- While the platform says the same about a DHCP client of its own: a tick of the normal mode's interface
    makes the calls that its session needs and no others, whatever was answered before. When an attempt
    got no lease, then in a run of ticks the next attempt of its phase keeps the retry interval,
    unless a lease was got before it. -/
theorem reach_upkeep {env : Env (Recorded σ)} {store : τ}
    (hs : M.recorded.Reach (fun s _ => M.recorded.capability s = b) (M.recorded.initial env store) s) :
    (∀ r name, s.roster.modes = some r → r.normal.carrierName? = some name →
      ∃ made, (M.recorded.receive name .tick s).env.calls = made ++ s.env.calls ∧
        Upkeep M.platform M.policy.retryNanos name r.normal s.env made) ∧
    ∀ p name event s₂ name₂, M.recorded.capability s = b → M.Tries p s (.event name event) →
      ¬ M.Gains s (.event name event) → M.recorded.Reach (M.Ticking b) (M.recorded.receive name event s) s₂ →
      M.Tries p s₂ (.event name₂ .tick) → s.env.now + M.policy.retryNanos ≤ s₂.env.now := by
  constructor
  · intro r name hr hname
    obtain ⟨h, ho⟩ := reach_orderly hs hr
    exact upkeep_receive hr h ho hname
  · intro p name event s₂ name₂ hown hp hn hs₂ hp₂
    have hreach {s' : State (Recorded σ) τ}
        (hs' : M.recorded.Reach (M.Ticking b) (M.recorded.receive name event s) s') :
        M.recorded.Reach (fun s _ => M.recorded.capability s = b) (M.recorded.initial env store) s' :=
      (Reach.step (.event name event) hs hown).trans (hs'.mono fun _ _ hok => hok.1)
    have hrecall : Recalls p s.env.now s₂.client? := by
      clear hp₂
      induction hs₂ with
      | refl => exact recalls_of_tries (hs.labelled rfl) (fun r hr => (reach_orderly hs hr).1) hp hn
      | step mv hs' hok ih =>
        exact recalls_step ((hreach hs').labelled rfl) (fun r hr => reach_orderly (hreach hs') hr) ih hok
    cases hr : s₂.roster.modes with
    | none =>
      have hp₂ : s₂.env.attempts.count p < (M.recorded.receive name₂ .tick s₂).env.attempts.count p := hp₂
      rw [receive_of_none hr] at hp₂
      exact absurd hp₂ (Nat.lt_irrefl _)
    | some r =>
      obtain ⟨h, ho⟩ := reach_orderly (hreach hs₂) hr
      obtain ⟨c, hc, hrested⟩ := rested_receive hr ((hreach hs₂).labelled rfl r hr) h ho hp₂
      rw [State.client?_eq hr] at hrecall
      exact late_of_recalls hc hrecall hrested

end ControlPlane

namespace Camera

open Simulation ControlPlane

/-- No server answers the next renewal. -/
def silent (b : Board) : Board :=
  { b with inner := { b.inner with script := [.error (.dhcp "renew" .timeout "no answer")] } }

/-- At half of the lease no server answers. The next tick is too early for another renewal, and the one after
    that is not. -/
theorem silent_upkeep :
    let s := plane.recorded.run
      (join ++ [.outside (fun x => { x with inner := silent x.inner }) id (1800 * second)]) recording
    let s₂ := plane.recorded.run [.outside id id (1830 * second), .event "wlan0" .tick, .outside id id (1860 * second)]
      (plane.recorded.receive "wlan0" .tick s)
    (∃ r, s.roster.modes = some r ∧ r.normal.carrierName? = some "wlan0" ∧
      ∃ made, (plane.recorded.receive "wlan0" .tick s).env.calls = made ++ s.env.calls ∧
        Upkeep plane.platform plane.policy.retryNanos "wlan0" r.normal s.env made) ∧
    plane.Tries .renew s (.event "wlan0" .tick) ∧ plane.Tries .renew s₂ (.event "wlan0" .tick) ∧
    s.env.now + plane.policy.retryNanos ≤ s₂.env.now := by
  intro s s₂
  have hs : s.roster.modes.any (fun r => decide (r.normal.carrierName? = some "wlan0")) = true := by
    decide +kernel
  obtain ⟨r, hr, hname⟩ := (Option.any_eq_true _ _).mp hs
  obtain ⟨hmade, hlate⟩ := reach_upkeep (M := plane) (b := false) (s := s) (reach_run (by decide +kernel))
  have hfirst : plane.Tries .renew s (.event "wlan0" .tick) := by decide +kernel
  have hlost : ¬ plane.Gains s (.event "wlan0" .tick) := by decide +kernel
  have hnext : plane.Tries .renew s₂ (.event "wlan0" .tick) := by decide +kernel
  have hwait : plane.recorded.Reach (plane.Ticking false) (plane.recorded.receive "wlan0" .tick s) s₂ :=
    reach_run (by decide +kernel)
  exact ⟨⟨r, hr, of_decide_eq_true hname, hmade r "wlan0" hr (of_decide_eq_true hname)⟩, hfirst, hnext,
    hlate .renew "wlan0" .tick s₂ "wlan0" (by decide +kernel) hfirst hlost hwait hnext⟩

end Camera

end Connectivity
