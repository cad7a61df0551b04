/-
  Connectivity.Proofs.Expiry — no address is kept past its lease.
  - `tick_connected`: a connection that a tick leaves connected has a lease with time left, or its
    renewal in that tick was refused and its lease withdrawn.
  - `tied_step`: with its session, such a connection stays as it is until the next tick.
  - `tick_withdrawn`: that tick clears the address, and the connection waits for a lease or has one
    anew.
-/

import Connectivity.Proofs.Deeds
import Connectivity.Proofs.Moves
import Connectivity.Proofs.Sessions

namespace Connectivity

/-! ## Leases -/

/-- The lease has time left. -/
def Client.Current (c : Client) (now : Nat) : Prop :=
  ∃ timers, c.lease = some timers ∧ now - c.updatedAt < Client.nanos timers.lease

/-- Every lease that is taken lasts a while. -/
theorem Timers.nanos_pos_of_ofServer {lease renewal rebinding : UInt32} {timers : Timers}
    (h : ofServer lease renewal rebinding = .ok timers) : 0 < Client.nanos timers.lease := by
  unfold ofServer at h
  split at h
  · cases h
  · rename_i hshort
    have hle : shortest.toNat ≤ lease.toNat := Nat.le_of_not_lt hshort
    have hpos : 0 < Client.nanos lease := by
      have hthree : shortest.toNat = 3 := rfl
      unfold Client.nanos second
      omega
    split at h <;> cases h <;> exact hpos

namespace Client

variable {c : Client} {now retry : Nat}

theorem current_granted {timers : Timers} (h : 0 < nanos timers.lease) (c : Client) (now : Nat) :
    (c.granted timers now).Current now :=
  ⟨timers, rfl, by simpa [granted] using h⟩

/-- Recovery is never put off. -/
theorem current_of_due {timers : Timers} (hl : c.lease = some timers) (hd : c.due now retry ≠ .recover) :
    c.Current now := by
  refine ⟨timers, hl, Nat.lt_of_not_le fun hle => hd ?_⟩
  unfold due
  rw [hl]
  simp only
  split <;> rfl

theorem due_of_withdrawn (hl : c.lease = some .withdrawn) : c.due now retry = .recover := by
  unfold due
  rw [hl]
  rfl

/-- Only a refusal touches the lease. -/
theorem current_failed (h : c.Current now) (phase : Phase) (failure : Option LeaseFailure) (later : Nat) :
    (c.failed phase later failure).Current now ∨
      failure = some .nak ∧ (c.failed phase later failure).lease = some .withdrawn := by
  obtain ⟨timers, hl, ht⟩ := h
  by_cases hn : failure = some .nak
  · exact .inr ⟨hn, by simp [failed, hn, hl]⟩
  · exact .inl ⟨timers, by simp [failed, hn, hl], ht⟩

end Client

/-! ## Attempts -/

section
variable {σ α : Type} {P : Platform σ}

theorem Env.now_of_perform {e e' : Env σ} {a : Action σ α} {answer : Except PlatformError α}
    (h : e.perform a = (answer, e')) : e'.now = e.now := by
  cases h
  rfl

namespace Link

variable {m : ModeState} {e : Env σ}

theorem attempt_leased {name : String} {ask : Action σ Grant} {e e' : Env σ} {g : Grant} {timers : Timers}
    (h : attempt P name ask e = (.leased g timers, e')) :
    e'.now = e.now ∧ 0 < Client.nanos timers.lease := by
  unfold attempt at h
  split at h
  · cases h
  · rename_i hx
    split at h
    · cases h
    · rename_i ht
      split at h
      · cases h
      · rename_i hy
        cases h
        exact ⟨(Env.now_of_perform hy).trans (Env.now_of_perform hx), Timers.nanos_pos_of_ofServer ht⟩

/-- Only the server's answer is a refusal; nothing is done about it here. -/
theorem attempt_refused {name : String} {ask : Action σ Grant} {e e' : Env σ}
    (h : attempt P name ask e = (.failed (some .nak), e')) :
    ∃ err, e.perform ask = (.error err, e') ∧ err.leaseFailure? = some .nak := by
  unfold attempt at h
  split at h
  · rename_i err e₁ hx
    have hf : err.leaseFailure? = some .nak ∧ e₁ = e' := by
      injection h with ha he
      injection ha with hf
      exact ⟨hf, he⟩
    exact ⟨err, hf.2 ▸ hx, hf.1⟩
  · split at h
    · cases h
    · split at h <;> cases h

/-- A mode that asks for a lease is connected with one, or goes on waiting. -/
theorem askForLease_cases (name : String) {c : Client} (hc : m.client = some c) (e : Env σ) :
    (∃ timers, (askForLease P name m e).1.status = .connected ∧
      (askForLease P name m e).1.client = some (c.granted timers e.now) ∧ 0 < Client.nanos timers.lease) ∨
    (askForLease P name m e).1.status = m.status ∧ (askForLease P name m e).1.address = m.address := by
  unfold askForLease
  rw [hc]
  simp only
  split
  · rename_i timers e' hx
    obtain ⟨hnow, hpos⟩ := attempt_leased hx
    exact .inl ⟨timers, rfl, by rw [← hnow]; rfl, hpos⟩
  · exact .inr ⟨rfl, rfl⟩

theorem startOver_cases (name : String) {c : Client} (hc : m.client = some c) (e : Env σ) :
    (∃ timers, (startOver P name m e).1.status = .connected ∧
      (startOver P name m e).1.client = some (c.forget.granted timers e.now) ∧
      0 < Client.nanos timers.lease) ∨
    (startOver P name m e).1.status = .connecting ∧ (startOver P name m e).1.address = .unspecified := by
  have hforget : ({ m with
      address := .unspecified, client := m.client.map Client.forget, status := .connecting } : ModeState).client =
      some c.forget := congrArg (Option.map Client.forget) hc
  have hcases (e₁ : Env σ) := askForLease_cases (P := P) name hforget e₁
  unfold startOver
  simp only
  split <;> exact hcases _

/-- A renewal that is not answered by a new lease leaves the old one, if it is not refused. -/
theorem extendLease_cases (name : String) (mode : Renewal) {c : Client} (hc : m.client = some c) (e : Env σ) :
    (∃ timers, (extendLease P name mode m e).1.client = some (c.granted timers e.now) ∧
      0 < Client.nanos timers.lease) ∨
    ∃ failure later, (extendLease P name mode m e).1.client = some (c.failed mode.phase later failure) ∧
      (failure = some .nak → ∃ err,
        e.perform (P.renew c.session mode) = (.error err, (extendLease P name mode m e).2) ∧
          err.leaseFailure? = some .nak) := by
  unfold extendLease
  rw [hc]
  simp only
  split
  · rename_i timers e' hx
    obtain ⟨hnow, hpos⟩ := attempt_leased hx
    exact .inl ⟨timers, by rw [← hnow], hpos⟩
  · rename_i failure e' hx
    refine .inr ⟨failure, e'.now, rfl, ?_⟩
    rintro rfl
    exact attempt_refused hx

/-! ## Ticks -/

theorem tick_of_no_client (retry : Nat) (hc : m.client = none) : tick P retry m e = (m, e) := by
  unfold tick
  rw [hc]
  split <;> rfl

theorem tick_eq (retry : Nat) {c : Client} {name : String} (hd : m.status ≠ .disconnecting)
    (hc : m.client = some c) (hn : m.carrierName? = some name) :
    tick P retry m e =
      match c.due e.now retry with
      | .idle => (m, e)
      | .request =>
        if m.status = .connecting && m.ifUp && m.linkUp then askForLease P name m e else (m, e)
      | .renew mode => if m.status = .connected then extendLease P name mode m e else (m, e)
      | .recover => startOver P name m e := by
  cases hdue : c.due e.now retry <;> simp only [tick, if_neg hd, hc, hn, hdue]

/-- A connection that a tick leaves connected has a current lease, or one that was refused just now. -/
theorem tick_connected {b : Bool} (retry : Nat) (h : m.Consistent (some b)) {c : Client}
    (hs : (tick P retry m e).1.status = .connected) (hc : (tick P retry m e).1.client = some c) :
    c.Current e.now ∨ c.lease = some .withdrawn ∧ ∃ renewal err,
      e.perform (P.renew c.session renewal) = (.error err, (tick P retry m e).2) ∧
        err.leaseFailure? = some .nak := by
  cases hc₀ : m.client with
  | none =>
    rw [tick_of_no_client retry hc₀, hc₀] at hc
    cases hc
  | some c₀ =>
    have k := h.session c₀ hc₀
    obtain ⟨carrier, -, hcarrier, -⟩ := h.carrier k.not_disconnected
    have hname := ModeState.carrierName?_of_carrier hcarrier
    have hnd : m.status ≠ .disconnecting := by
      rcases k.running with hr | hr <;> rw [hr] <;> decide
    -- The lease of a connection for which no recovery is due.
    have hcurrent (hd : c₀.due e.now retry ≠ .recover) (hs : m.status = .connected) : c₀.Current e.now := by
      obtain ⟨timers, hl⟩ := Option.isSome_iff_exists.mp ((k.connectedByLease b rfl).2 hs)
      exact Client.current_of_due hl hd
    have hidle (hd : c₀.due e.now retry ≠ .recover) (hs : m.status = .connected) (hc : m.client = some c) :
        c.Current e.now := by
      obtain rfl : c₀ = c := Option.some.inj (hc₀.symm.trans hc)
      exact hcurrent hd hs
    rw [tick_eq retry hnd hc₀ hname] at hs hc ⊢
    cases hdue : c₀.due e.now retry with
    | idle =>
      rw [hdue] at hs hc
      exact .inl (hidle (by rw [hdue]; nofun) hs hc)
    | request =>
      simp only [hdue] at hs hc
      split at hs
      · rename_i hready
        rw [if_pos hready] at hc
        simp only [Bool.and_eq_true, decide_eq_true_eq] at hready
        rcases askForLease_cases (P := P) carrier.name hc₀ e with ⟨timers, -, hg, hpos⟩ | ⟨hwait, -⟩
        · obtain rfl : c₀.granted timers e.now = c := Option.some.inj (hg.symm.trans hc)
          exact .inl (Client.current_granted hpos c₀ e.now)
        · rw [hwait, hready.1.1] at hs
          cases hs
      · rename_i hready
        rw [if_neg hready] at hc
        exact .inl (hidle (by rw [hdue]; nofun) hs hc)
    | renew renewal =>
      simp only [hdue] at hs hc
      split at hs
      · rename_i hconnected
        rw [if_pos hconnected] at hc
        simp only [if_pos hconnected]
        have hold := hcurrent (by rw [hdue]; nofun) hconnected
        rcases extendLease_cases (P := P) carrier.name renewal hc₀ e with
          ⟨timers, hg, hpos⟩ | ⟨failure, later, hf, hrefused⟩
        · obtain rfl : c₀.granted timers e.now = c := Option.some.inj (hg.symm.trans hc)
          exact .inl (Client.current_granted hpos c₀ e.now)
        · obtain rfl : c₀.failed renewal.phase later failure = c := Option.some.inj (hf.symm.trans hc)
          rcases Client.current_failed hold renewal.phase failure later with hkept | ⟨hnak, hlost⟩
          · exact .inl hkept
          · exact .inr ⟨hlost, renewal, hrefused hnak⟩
      · rename_i hconnected
        exact absurd hs hconnected
    | recover =>
      rw [hdue] at hs hc
      rcases startOver_cases (P := P) carrier.name hc₀ e with ⟨timers, -, hg, hpos⟩ | ⟨hwait, -⟩
      · obtain rfl : c₀.forget.granted timers e.now = c := Option.some.inj (hg.symm.trans hc)
        exact .inl (Client.current_granted hpos c₀.forget e.now)
      · have hs : (startOver P carrier.name m e).1.status = .connected := hs
        rw [hwait] at hs
        cases hs

/-- A tick that finds the lease withdrawn gives the address up first, and asks for a lease. -/
theorem tick_withdrawn (retry : Nat) {c : Client} {name : String} (hs : m.status = .connected)
    (hc : m.client = some c) (hl : c.lease = some .withdrawn) (hn : m.carrierName? = some name) :
    tick P retry m e = startOver P name m e := by
  have hnd : m.status ≠ .disconnecting := by
    rw [hs]
    decide
  rw [tick_eq retry hnd hc hn, Client.due_of_withdrawn hl]

/-! ## Calls -/

theorem suffix_of_perform {e e' : Env (Recorded σ)} {call : Except PlatformError α → PlatformCall}
    {a : Action σ α} {answer : Except PlatformError α} (h : e.perform (record call a) = (answer, e')) :
    e.calls <:+ e'.calls := by
  rw [Env.calls_of_perform h]
  exact List.suffix_cons _ _

theorem suffix_of_errand {e e' : Env (Recorded σ)} (h : Errand P.recorded e e') : e.calls <:+ e'.calls := by
  cases h with
  | signal _ _ he =>
    subst he
    exact List.suffix_rfl
  | mac hx => exact suffix_of_perform hx
  | setAddress hx => exact suffix_of_perform hx
  | setMethod hx => exact suffix_of_perform hx
  | request hx => exact suffix_of_perform hx
  | renew hx => exact suffix_of_perform hx
  | noSession hx => exact suffix_of_perform hx
  | noServer hx => exact suffix_of_perform hx

theorem suffix_of_errands {e e' : Env (Recorded σ)} (h : Errands P.recorded e e') : e.calls <:+ e'.calls := by
  induction h with
  | refl => exact List.suffix_rfl
  | tail _ h ih => exact ih.trans (suffix_of_errand h)

/-- The address is cleared before anything else is asked of the platform. -/
theorem calls_startOver (name : String) (m : ModeState) (e : Env (Recorded σ)) :
    .setAddress name .unspecified :: e.calls <:+ (startOver P.recorded name m e).2.calls := by
  have hask {m : ModeState} {e : Env (Recorded σ)} {calls : List PlatformCall}
      (hr : m.status.isRunning = true) (he : e.calls = calls) :
      calls <:+ (askForLease P.recorded name m e).2.calls := by
    subst he
    exact suffix_of_errands (runsErrands_askForLease name hr).2
  unfold startOver
  simp only
  split <;> exact hask rfl rfl

end Link

/-! ## Other events -/

namespace Dispatch

variable {m : ModeState} {e : Env σ}

/-- Between ticks a connection keeps its session as it is, or loses it. -/
theorem answer_connected (retry : Nat) {event : Event} (hm : m.mode = .normal) (hs : m.status = .connected)
    (ht : event ≠ .tick) :
    (answer P retry event m e).1.client = none ∨
      (answer P retry event m e).1.client = m.client ∧ (answer P retry event m e).1.status = .connected := by
  have hn : ¬ m.status = .connecting := by
    rw [hs]
    decide
  have hnd : ¬ m.status = .disconnecting := by
    rw [hs]
    decide
  have hlost (ifUp linkUp : Bool) : (Link.loseLink P { m with ifUp, linkUp } e).1.client = none := by
    rw [Link.loseLink_fst]
  have hready (ifUp linkUp : Bool) : bothUp P { m with ifUp, linkUp } e = ({ m with ifUp, linkUp }, e) := by
    simp [bothUp, hn]
  have hkind (event : Event) : (byKind P event m e).1.client = none ∨
      (byKind P event m e).1.client = m.client ∧ (byKind P event m e).1.status = .connected := by
    unfold byKind
    rw [hm]
    cases m.carrierKind? with
    | none => exact .inr ⟨rfl, hs⟩
    | some kind =>
      cases kind with
      | ethernet =>
        simp only [ethernet]
        split
        · rw [hready true m.linkUp]
          exact .inr ⟨rfl, hs⟩
        · rw [hready m.ifUp true]
          exact .inr ⟨rfl, hs⟩
        · exact .inl (hlost false false)
        · exact .inl (hlost m.ifUp false)
        · exact .inr ⟨rfl, hs⟩
      | wifi =>
        simp only [station]
        split
        · rw [if_neg hn]
          exact .inr ⟨rfl, hs⟩
        · rw [if_neg (by simp [hn])]
          exact .inl (hlost m.ifUp false)
        · rw [if_neg hnd, Link.restart_fst]
          exact .inl (hlost false false)
        · exact .inl (hlost m.ifUp false)
        · exact .inl (hlost m.ifUp false)
        · exact .inr ⟨rfl, hs⟩
  unfold answer
  split
  · exact absurd rfl ht
  · rw [if_neg hnd]
    exact hkind _
  · exact hkind _

end Dispatch

end

/-! ## Runs -/

/-- The normal mode is connected on an interface, with a client's session. -/
structure Modes.Tied (r : Modes) (name : String) (c : Client) : Prop where
  carrier : r.normal.carrierName? = some name
  status : r.normal.status = .connected
  client : r.normal.client = some c

namespace ControlPlane

variable {σ τ : Type} {M : ControlPlane σ τ} {s : State σ τ} {name : String} {c : Client}

variable (M) in
/-- Moves that keep a session held and are no tick of the interface. -/
def Holding (name : String) (id : SessionId) (s : State σ τ) (mv : Move σ τ) : Prop :=
  mv ≠ .event name .tick ∧ held? (M.step mv s).roster.modes = some id

theorem tied_reaction {m : ModeState} (hm : m.mode = .normal) (hname : m.carrierName? = some name)
    (hs : m.status = .connected) (hc : m.client = some c) {name' : String} {event : Event}
    (ht : ¬ (name' = name ∧ event = .tick)) (e : Env σ) :
    (M.reaction name' event m e).1.client = none ∨
      (M.reaction name' event m e).1.carrierName? = some name ∧
      (M.reaction name' event m e).1.status = .connected ∧ (M.reaction name' event m e).1.client = some c := by
  unfold reaction
  split
  · rename_i ha
    obtain rfl : name' = name := Option.some.inj ((ModeState.accepts_iff.mp ha).2.symm.trans hname)
    split
    · rw [hc]
      exact .inl rfl
    · have hcarrier := ModeState.carrierName?_of_fixed
        (Dispatch.fixed_answer M.platform M.policy.retryNanos event m e)
      simp only [ModeState.refresh_snd]
      rcases Dispatch.answer_connected (P := M.platform) (e := e) M.policy.retryNanos hm hs
        (fun h => ht ⟨rfl, h⟩) with hnone | ⟨hclient, hstatus⟩
      · exact .inl hnone
      · exact .inr ⟨hcarrier.trans hname, hstatus, hclient.trans hc⟩
  · exact .inr ⟨hname, hs, hc⟩

theorem tied_start {r r' : Modes} (hl : ∀ r, s.roster.modes = some r → r.Labelled) (hr : s.roster.modes = some r)
    (h : r.Tied name c) {hd : Handle} {source : ParameterSource}
    (hr' : (M.start hd source s).2.roster.modes = some r') : r'.Tied name c := by
  rcases start_cases hl hd source with ⟨_, -, hv⟩ | ⟨mode, r₀, m, -, hr₀, hdis, hv, -⟩
  · obtain rfl : r = r' := Option.some.inj ((hv.trans hr).symm.trans hr')
    exact h
  · obtain rfl : r = r₀ := Option.some.inj (hr.symm.trans hr₀)
    obtain rfl : r.set mode m = r' := Option.some.inj (hv.symm.trans hr')
    cases mode with
    | normal =>
      have hdis : r.normal.status = .disconnected := hdis
      rw [h.status] at hdis
      cases hdis
    | accessPoint => exact ⟨h.carrier, h.status, h.client⟩

/-- A stop that goes through takes the session of the normal mode, if it stops that or reaches it. -/
theorem tied_stop {r r' : Modes} (hl : ∀ r, s.roster.modes = some r → r.Labelled) (hr : s.roster.modes = some r)
    (h : r.Tied name c) {hd : Handle} (hr' : (M.stop hd s).2.roster.modes = some r')
    (hclient : r'.normal.client ≠ none) : r'.Tied name c := by
  rcases modes_stop hl hr hd with ⟨_, r₁, -, hsur, hv⟩ | ⟨mode, r₁, e, ⟨result, m', e'⟩, -, -, hsur, hx, -, hv⟩
  · obtain rfl : r₁ = r' := Option.some.inj (hv.symm.trans hr')
    have hkept : r₁.normal = r.normal :=
      (hsur .normal).resolve_right fun hlost => hclient (congrArg ModeState.client hlost)
    exact ⟨hkept ▸ h.carrier, hkept ▸ h.status, hkept ▸ h.client⟩
  · obtain rfl : r₁.set mode m'.refresh.2 = r' := Option.some.inj (hv.symm.trans hr')
    have hcarrier : r₁.normal.carrier = r.normal.carrier := hsur.carrier .normal
    have hkept (hn : r₁.normal.client ≠ none) : r₁.normal = r.normal :=
      (hsur .normal).resolve_right fun hlost => hn (congrArg ModeState.client hlost)
    cases mode with
    | accessPoint =>
      have hkept : r₁.normal = r.normal := hkept hclient
      exact ⟨hkept ▸ h.carrier, hkept ▸ h.status, hkept ▸ h.client⟩
    | normal =>
      have hm' : m'.client ≠ none := by
        intro hn
        refine hclient ?_
        have hrefresh := congrArg ModeState.client (ModeState.refresh_snd m')
        exact hrefresh.trans hn
      cases result with
      | error err =>
        obtain ⟨-, -, rfl, -⟩ := Link.stop_error _ hx
        have hget : r₁.get .normal = r.normal := hkept hm'
        rw [hget, ModeState.refresh_snd]
        exact ⟨h.carrier, h.status, h.client⟩
      | ok u =>
        rcases Link.stop_ok_fst _ hx with ⟨hn, -⟩ | ⟨hnone, -⟩
        · have hname := h.carrier
          rw [ModeState.carrierName?, ← hcarrier, show r₁.normal.carrier = none from hn] at hname
          cases hname
        · exact absurd hnone hm'

theorem tied_receive {r r' : Modes} (hl : r.Labelled) (hr : s.roster.modes = some r) (h : r.Tied name c)
    {name' : String} {event : Event} (ht : ¬ (name' = name ∧ event = .tick))
    (hr' : (M.receive name' event s).roster.modes = some r') (hclient : r'.normal.client ≠ none) :
    r'.Tied name c := by
  obtain ⟨r'', hr'', hget⟩ := modes_receive (M := M) hr name' event
  obtain rfl : r'' = r' := Option.some.inj (hr''.symm.trans hr')
  obtain ⟨e, he⟩ := hget .normal
  have he : r''.normal = (M.reaction name' event r.normal e).1 := he
  rw [he] at hclient
  obtain ⟨hcarrier, hstatus, hsame⟩ :=
    (tied_reaction (M := M) (hl .normal) h.carrier h.status h.client ht e).resolve_left hclient
  exact ⟨he ▸ hcarrier, he ▸ hstatus, he ▸ hsame⟩

theorem tied_step {r : Modes} (hl : ∀ r, s.roster.modes = some r → r.Labelled) (hr : s.roster.modes = some r)
    (h : r.Tied name c) {mv : Move σ τ} (hok : M.Holding name c.session s mv) :
    ∃ r', (M.step mv s).roster.modes = some r' ∧ r'.Tied name c := by
  obtain ⟨ht, hheld⟩ := hok
  obtain ⟨r', hr', hsession⟩ := Option.bind_eq_some_iff.mp hheld
  have hclient : r'.normal.client ≠ none := by
    intro hn
    rw [ModeState.session?, hn] at hsession
    cases hsession
  refine ⟨r', hr', ?_⟩
  by_cases hcalm : mv.isCalm = true
  · obtain ⟨b, hb⟩ := calm_step (hl r hr) hr hcalm hr' .normal
    have hb : r'.normal = { r.normal with listening := b } := hb
    exact ⟨by rw [hb]; exact h.carrier, by rw [hb]; exact h.status, by rw [hb]; exact h.client⟩
  · cases mv with
    | start hd source => exact tied_start hl hr h hr'
    | stop hd => exact tied_stop hl hr h hr' hclient
    | event name' event =>
      refine tied_receive (hl r hr) hr h ?_ hr' hclient
      rintro ⟨rfl, rfl⟩
      exact ht rfl
    | _ => exact absurd rfl hcalm

theorem reach_tied {s₀ s' : State σ τ} (hn : s₀.roster.modes = none) (hs : M.Reach (fun _ _ => True) s₀ s)
    {r : Modes} (hr : s.roster.modes = some r) (h : r.Tied name c)
    (hs' : M.Reach (M.Holding name c.session) s s') :
    ∃ r', s'.roster.modes = some r' ∧ r'.Tied name c := by
  induction hs' with
  | refl => exact ⟨r, hr, h⟩
  | @step s' mv hs' hok ih =>
    obtain ⟨r', hr', h'⟩ := ih
    have hl := (hs.trans (hs'.mono fun _ _ _ => trivial)).labelled hn
    exact tied_step hl hr' h' hok

/-- A tick is the business of the normal mode alone. -/
theorem receive_tick {r : Modes} (hr : s.roster.modes = some r) (hc : r.accessPoint.client = none) (name : String) :
    ∃ r', (M.receive name .tick s).roster.modes = some r' ∧
      r'.normal = (M.reaction name .tick r.normal s.env).1 ∧
      (M.receive name .tick s).env = (M.reaction name .tick r.normal s.env).2 := by
  have hv := view_receive (M := M) hr name .tick
  have hidle (e : Env σ) : (M.reaction name .tick r.accessPoint e).2 = e := by
    unfold reaction
    split
    · exact congrArg Prod.snd (Link.tick_of_no_client M.policy.retryNanos hc)
    · rfl
  refine ⟨_, congrArg Prod.fst hv, rfl, ?_⟩
  have henv : (M.receive name .tick s).env = _ := congrArg Prod.snd hv
  rw [henv, hidle]

theorem reaction_tick {m : ModeState} (ha : m.accepts name = true) (e : Env σ) :
    M.reaction name .tick m e =
      ((Link.tick M.platform M.policy.retryNanos m e).1.refresh.2,
        (Link.tick M.platform M.policy.retryNanos m e).2) := by
  unfold reaction
  rw [if_pos ha, if_neg nofun]
  rfl

/-- Whatever the platform answers, while it always says the same about a DHCP client of its own: if
    the normal mode is connected with a session after a tick of its interface, then its lease has time
    left, or was withdrawn as the renewal that this tick made was refused. In that case, however long
    the session is held after it, the next tick clears the address first, and leaves the mode
    waiting without one or with a lease of that very moment. -/
theorem reach_expiry {b : Bool} {env : Env (Recorded σ)} {store : τ} {s : State (Recorded σ) τ} {r r₁ : Modes}
    (hs : M.recorded.Reach (fun s _ => M.recorded.capability s = b) (M.recorded.initial env store) s)
    (hr : s.roster.modes = some r) (hname : r.normal.carrierName? = some name)
    (hr₁ : (M.recorded.receive name .tick s).roster.modes = some r₁)
    (hconnected : r₁.normal.status = .connected) (hclient : r₁.normal.client = some c) :
    ∃ timers, c.lease = some timers ∧
      (s.env.now - c.updatedAt < Client.nanos timers.lease ∨
      timers = .withdrawn ∧
      (∃ renewal err, (M.recorded.receive name .tick s).env.calls = .renew c.session renewal :: s.env.calls ∧
        (M.platform.renew c.session renewal s.env.platform.inner).1 = .error err ∧
        err.leaseFailure? = some .nak) ∧
      ∀ s₂, M.recorded.Reach (M.recorded.Holding name c.session) (M.recorded.receive name .tick s) s₂ →
        .setAddress name .unspecified :: s₂.env.calls <:+ (M.recorded.receive name .tick s₂).env.calls ∧
        ∃ r₂, (M.recorded.receive name .tick s₂).roster.modes = some r₂ ∧
          (r₂.normal.status = .connecting ∧ r₂.normal.address = .unspecified ∨
            r₂.normal.status = .connected ∧
              ∃ timers, r₂.normal.client = some (c.forget.granted timers s₂.env.now))) := by
  have hany : M.recorded.Reach (fun _ _ => True) (M.recorded.initial env store) s := hs.mono fun _ _ _ => trivial
  have hcons : r.Consistent (some b) := by
    refine reach_consistent (fun s _ hok b' hb => ?_) rfl hs hr
    cases hb
    exact hok.symm
  obtain ⟨r₁', hr₁', hn₁, he₁⟩ := receive_tick (M := M.recorded) hr hcons.accessPoint name
  obtain rfl : r₁ = r₁' := Option.some.inj (hr₁.symm.trans hr₁')
  have ha : r.normal.accepts name = true := by
    refine ModeState.accepts_iff.mpr ⟨fun hd => ?_, hname⟩
    have hna : r.normal.accepts name = false := by simp [ModeState.accepts, hd]
    rw [hn₁, reaction_of_not_accepts hna, hd] at hconnected
    cases hconnected
  rw [reaction_tick ha] at hn₁ he₁
  generalize hx : Link.tick M.recorded.platform M.recorded.policy.retryNanos r.normal s.env = x at hn₁ he₁
  have htick : x.1.status = .connected ∧ x.1.client = some c ∧ x.1.carrierName? = some name := by
    have hfixed : x.1.carrierName? = r.normal.carrierName? :=
      hx ▸ ModeState.carrierName?_of_fixed (Link.fixed_tick _ _ r.normal s.env)
    rw [hn₁, ModeState.refresh_snd] at hconnected hclient
    exact ⟨hconnected, hclient, hfixed.trans hname⟩
  have htied : r₁.Tied name c := by
    refine ⟨?_, hconnected, hclient⟩
    rw [hn₁, ModeState.refresh_snd]
    exact htick.2.2
  subst hx
  rcases Link.tick_connected _ hcons.normal htick.1 htick.2.1 with
    ⟨timers, hl, hcurrent⟩ | ⟨hl, renewal, err, hrenew, hnak⟩
  · exact ⟨timers, hl, .inl hcurrent⟩
  · rw [← he₁] at hrenew
    refine ⟨.withdrawn, hl, .inr ⟨rfl, ⟨renewal, err, Env.calls_of_perform hrenew, ?_, hnak⟩, fun s₂ hs₂ => ?_⟩⟩
    · exact congrArg Prod.fst hrenew
    · have hs₁ : M.recorded.Reach (fun _ _ => True) (M.recorded.initial env store) (M.recorded.receive name .tick s) :=
        .step (.event name .tick) hany trivial
      obtain ⟨r₂, hr₂, h₂⟩ := reach_tied rfl hs₁ hr₁ htied hs₂
      have hcons₂ : r₂.Consistent none :=
        reach_consistent (fun _ _ _ _ hb => by cases hb) rfl (hs₁.trans (hs₂.mono fun _ _ _ => trivial)) hr₂
      obtain ⟨r₃, hr₃, hn₃, he₃⟩ := receive_tick (M := M.recorded) hr₂ hcons₂.accessPoint name
      have ha₂ : r₂.normal.accepts name = true :=
        ModeState.accepts_iff.mpr ⟨by rw [h₂.status]; decide, h₂.carrier⟩
      rw [reaction_tick ha₂, Link.tick_withdrawn _ h₂.status h₂.client hl h₂.carrier] at hn₃ he₃
      refine ⟨?_, r₃, hr₃, ?_⟩
      · rw [he₃]
        exact Link.calls_startOver name r₂.normal s₂.env
      · rw [hn₃, ModeState.refresh_snd]
        rcases Link.startOver_cases (P := M.recorded.platform) name h₂.client s₂.env with
          ⟨timers, hstatus, hlease, -⟩ | hwait
        · exact .inr ⟨hstatus, timers, hlease⟩
        · exact .inl hwait

end ControlPlane

namespace Camera

open Simulation ControlPlane

/-- The server refuses the next renewal. -/
def refusing (b : Board) : Board :=
  { b with inner := { b.inner with script := [.error (.dhcp "renew" .nak "refused")] } }

/-- At half of the lease the renewal is refused. -/
theorem refused_expiry :
    let s := plane.recorded.run
      (join ++ [.outside (fun x => { x with inner := refusing x.inner }) id (1800 * second)]) recording
    let s₁ := plane.recorded.receive "wlan0" .tick s
    ∃ r r₁ c, s.roster.modes = some r ∧ r.normal.carrierName? = some "wlan0" ∧
      s₁.roster.modes = some r₁ ∧ r₁.normal.status = .connected ∧ r₁.normal.client = some c ∧
      c.lease = some .withdrawn ∧
      ∃ timers, c.lease = some timers ∧
        (s.env.now - c.updatedAt < Client.nanos timers.lease ∨
        timers = .withdrawn ∧
        (∃ renewal err, s₁.env.calls = .renew c.session renewal :: s.env.calls ∧
          (plane.platform.renew c.session renewal s.env.platform.inner).1 = .error err ∧
          err.leaseFailure? = some .nak) ∧
        ∀ s₂, plane.recorded.Reach (plane.recorded.Holding "wlan0" c.session) s₁ s₂ →
          .setAddress "wlan0" .unspecified :: s₂.env.calls <:+ (plane.recorded.receive "wlan0" .tick s₂).env.calls ∧
          ∃ r₂, (plane.recorded.receive "wlan0" .tick s₂).roster.modes = some r₂ ∧
            (r₂.normal.status = .connecting ∧ r₂.normal.address = .unspecified ∨
              r₂.normal.status = .connected ∧
                ∃ timers, r₂.normal.client = some (c.forget.granted timers s₂.env.now))) := by
  intro s s₁
  have hs : s.roster.modes.any (fun r => decide (r.normal.carrierName? = some "wlan0")) = true := by
    decide +kernel
  have hs₁ : s₁.roster.modes.any (fun r => decide (r.normal.status = .connected) &&
      r.normal.client.any (fun c => decide (c.lease = some .withdrawn))) = true := by
    decide +kernel
  obtain ⟨r, hr, hname⟩ := (Option.any_eq_true _ _).mp hs
  obtain ⟨r₁, hr₁, hd⟩ := (Option.any_eq_true _ _).mp hs₁
  simp only [Bool.and_eq_true, decide_eq_true_eq, Option.any_eq_true] at hd hname
  obtain ⟨hconnected, c, hclient, hlease⟩ := hd
  refine ⟨r, r₁, c, hr, hname, hr₁, hconnected, hclient, hlease, ?_⟩
  refine reach_expiry (b := false) (reach_run ?_) hr hname hr₁ hconnected hclient
  decide +kernel

end Camera

end Connectivity
