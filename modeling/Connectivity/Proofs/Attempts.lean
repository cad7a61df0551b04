/-
  Connectivity.Proofs.Attempts — attempts to get or to extend a lease, and what a session remembers of
  them.
  - `trial`: the calls of one attempt. A server that grants a lease has its address set.
  - `Client.Tried`: what an attempt leaves, which is a lease of that very moment or the memory of the
    failure.
  - `tended_answer`: an event makes one attempt or none. With none the session stays as it is, or is
    lost.
  - `Client.Orderly`: the timers of a lease increase, and a failed request is remembered only without a
    lease. `reach_orderly`: so in every run, while the platform says the same about a DHCP client of its
    own.
-/

import Connectivity.Proofs.Expiry

namespace Connectivity

/-! ## Timers -/

/-- The timers are in the order in which they run out. -/
def Timers.Increasing (t : Timers) : Prop :=
  0 < t.renewal.toNat ∧ t.renewal.toNat < t.rebinding.toNat ∧ t.rebinding.toNat < t.lease.toNat

/-- Half of a lease, as words have it. -/
theorem Timers.toNat_half (lease : UInt32) : (lease.toUInt64 / 2).toUInt32.toNat = lease.toNat / 2 := by
  have hlt := lease.toNat_lt
  have htwo : (2 : UInt64).toNat = 2 := rfl
  simp only [UInt64.toNat_toUInt32, UInt64.toNat_div, UInt32.toNat_toUInt64, htwo]
  omega

/-- Seven eighths of a lease. The product needs more than the 32 bits of the lease, and no more than 64. -/
theorem Timers.toNat_sevenEighths (lease : UInt32) :
    (lease.toUInt64 * 7 / 8).toUInt32.toNat = 7 * lease.toNat / 8 := by
  have hlt := lease.toNat_lt
  have hseven : (7 : UInt64).toNat = 7 := rfl
  have height : (8 : UInt64).toNat = 8 := rfl
  have hproduct : lease.toNat * 7 % 2 ^ 64 = 7 * lease.toNat := by omega
  simp only [UInt64.toNat_toUInt32, UInt64.toNat_div, UInt64.toNat_mul, UInt32.toNat_toUInt64, hseven, height,
    hproduct]
  omega

theorem Timers.increasing_of_ofServer {lease renewal rebinding : UInt32} {timers : Timers}
    (h : ofServer lease renewal rebinding = .ok timers) : timers.Increasing := by
  unfold ofServer at h
  split at h
  · cases h
  · rename_i hshort
    have hle : 3 ≤ lease.toNat := Nat.le_of_not_lt hshort
    split at h
    · rename_i hserver
      cases h
      exact hserver
    · cases h
      have hhalf := toNat_half lease
      have heighths := toNat_sevenEighths lease
      refine ⟨?_, ?_, ?_⟩
      · rw [hhalf]
        omega
      · rw [hhalf, heighths]
        omega
      · rw [heighths]
        show 7 * lease.toNat / 8 < lease.toNat
        omega

/-! ## Clients -/

namespace Client

/-- The timers of a lease increase until it is withdrawn, and a failed request is remembered exactly while
    there is no lease. -/
structure Orderly (c : Client) : Prop where
  timers : ∀ t, c.lease = some t → t = .withdrawn ∨ t.Increasing
  waiting : c.failures.request.isSome = true ↔ c.lease = none

/-- What an attempt leaves of a session's client: a lease of that moment, or the memory of a failure. -/
inductive Tried (c : Client) (p : Phase) (now : Nat) : Client → Prop
  | granted {timers : Timers} : timers.Increasing → Tried c p now (c.granted timers now)
  | failed (failure : Option LeaseFailure) : Tried c p now (c.failed p now failure)

/-- A failed attempt leaves a lease, if only one that was withdrawn, exactly where there was one. -/
theorem lease_failed_eq_none {c : Client} {p : Phase} {now : Nat} {failure : Option LeaseFailure} :
    (c.failed p now failure).lease = none ↔ c.lease = none := by
  rw [← Option.not_isSome_iff_eq_none, isSome_lease_failed, Option.not_isSome_iff_eq_none]

theorem Tried.orderly {c c' : Client} {p : Phase} {now : Nat} (h : c.Tried p now c')
    (hc : c.Orderly ∨ p = .request) (hp : p = .request ↔ c.lease = none) : c'.Orderly := by
  cases h with
  | granted ht =>
    refine ⟨fun t hl => ?_, ?_⟩
    · cases hl
      exact .inr ht
    · exact ⟨nofun, nofun⟩
  | failed failure =>
    refine ⟨fun t hl => ?_, ?_⟩
    · have hsome : c.lease ≠ none := fun hn => by
        rw [lease_failed_eq_none.mpr hn] at hl
        cases hl
      have htimers := (hc.resolve_right fun hr => hsome (hp.mp hr)).timers
      by_cases hn : failure = some .nak
      · simp only [Client.failed, hn, if_true] at hl
        obtain ⟨_, -, rfl⟩ := Option.map_eq_some_iff.mp hl
        exact .inl rfl
      · simp only [Client.failed, if_neg hn] at hl
        exact htimers t hl
    · rw [lease_failed_eq_none, ← hp]
      by_cases hr : p = .request
      · subst hr
        exact ⟨fun _ => rfl, fun _ => rfl⟩
      · have hwaiting := (hc.resolve_right hr).waiting
        rw [← hp] at hwaiting
        cases p with
        | request => exact absurd rfl hr
        | renew => exact hwaiting
        | rebind => exact hwaiting

/-- The client has a lease of this moment, and nothing has failed since. -/
def Renewed (c : Client) (now : Nat) : Prop :=
  c.lease.isSome = true ∧ c.updatedAt = now ∧ c.failures = {}

instance (c : Client) (now : Nat) : Decidable (c.Renewed now) := inferInstanceAs (Decidable (_ ∧ _ ∧ _))

/-- A failed attempt is remembered with its reading of the clock. -/
theorem Tried.remembered {c c' : Client} {p : Phase} {now : Nat} (h : c.Tried p now c') (hn : ¬ c'.Renewed now) :
    ∀ q, c'.failures.at? q = if p = q then some now else c.failures.at? q := by
  cases h with
  | granted => exact absurd ⟨rfl, rfl, rfl⟩ hn
  | failed failure => exact Failures.at?_record c.failures now p

end Client

/-! ## Calls -/

namespace Phase

def call (id : SessionId) : Phase → PlatformCall
  | .request => .request id
  | .renew => .renew id .unicast
  | .rebind => .renew id .rebind

variable {σ : Type}

def ask (P : Platform σ) (id : SessionId) : Phase → Action σ Grant
  | .request => P.request id
  | .renew => P.renew id .unicast
  | .rebind => P.renew id .rebind

theorem ask_renewal (P : Platform σ) (id : SessionId) (mode : Renewal) :
    mode.phase.ask P id = P.renew id mode := by
  cases mode <;> rfl

theorem ask_recorded (P : Platform σ) (id : SessionId) (p : Phase) :
    p.ask P.recorded id = record (fun _ => p.call id) (p.ask P id) := by
  cases p <;> rfl

end Phase

/-- The calls of one attempt, the latest first. What the server grants is set as the address, if the
    lease is not too short. -/
def trial {σ : Type} (P : Platform σ) (name : String) (p : Phase) (id : SessionId) (x : σ) : List PlatformCall :=
  match (p.ask P id x).1 with
  | .error _ => [p.call id]
  | .ok g =>
    match Timers.ofServer g.leaseTime g.renewalTime g.rebindingTime with
    | .error _ => [p.call id]
    | .ok _ => [.setAddress name g.addressing, p.call id]

/-- The phase that a call is an attempt of. -/
def PlatformCall.phase? : PlatformCall → Option Phase
  | .request _ => some .request
  | .renew _ mode => some mode.phase
  | _ => none

section
variable {σ α : Type} {P : Platform σ} {m : ModeState} {e : Env (Recorded σ)}

namespace Env

/-- The attempts that were made, the latest first. -/
def attempts (e : Env (Recorded σ)) : List Phase := e.calls.filterMap PlatformCall.phase?

/-- A call that a view of the calls does not show. -/
theorem hidden_of_perform {β : Type} {view : PlatformCall → Option β} {e e' : Env (Recorded σ)}
    {call : Except PlatformError α → PlatformCall} {a : Action σ α} {answer : Except PlatformError α}
    (h : e.perform (record call a) = (answer, e')) (hc : ∀ answer, view (call answer) = none) :
    e'.calls.filterMap view = e.calls.filterMap view := by
  rw [calls_of_perform h, List.filterMap_cons_none (hc answer)]

theorem attempts_of_perform {e e' : Env (Recorded σ)} {call : Except PlatformError α → PlatformCall}
    {a : Action σ α} {answer : Except PlatformError α} (h : e.perform (record call a) = (answer, e'))
    (hc : ∀ answer, (call answer).phase? = none) : e'.attempts = e.attempts :=
  hidden_of_perform h hc

theorem attempts_perform (e : Env (Recorded σ)) {call : Except PlatformError α → PlatformCall} (a : Action σ α)
    (hc : ∀ answer, (call answer).phase? = none) : (e.perform (record call a)).2.attempts = e.attempts :=
  attempts_of_perform rfl hc

end Env

namespace Link

theorem phase?_call (p : Phase) (id : SessionId) : (p.call id).phase? = some p := by
  cases p <;> rfl

theorem attempts_of_trial {e e' : Env (Recorded σ)} {name : String} {p : Phase} {id : SessionId} {x : σ}
    (h : e'.calls = trial P name p id x ++ e.calls) : e'.attempts = p :: e.attempts := by
  unfold Env.attempts
  rw [h]
  unfold trial
  split
  · exact List.filterMap_cons_some (phase?_call p id)
  · split
    · exact List.filterMap_cons_some (phase?_call p id)
    · exact List.filterMap_cons_some (phase?_call p id)

/-- An attempt makes the calls of a trial, and leaves the clock as it is. -/
theorem calls_attempt (name : String) (p : Phase) (id : SessionId) (e : Env (Recorded σ)) :
    (attempt P.recorded name (p.ask P.recorded id) e).2.calls = trial P name p id e.platform.inner ++ e.calls := by
  rw [Phase.ask_recorded]
  unfold attempt trial
  cases hx : e.perform (record (fun _ => p.call id) (p.ask P id)) with
  | mk answer e₁ =>
    have hanswer : (p.ask P id e.platform.inner).1 = answer := congrArg Prod.fst hx
    have hcalls := Env.calls_of_perform hx
    rw [hanswer]
    cases answer with
    | error err => exact hcalls
    | ok g =>
      simp only
      cases Timers.ofServer g.leaseTime g.renewalTime g.rebindingTime with
      | error err => exact hcalls
      | ok timers =>
        simp only
        cases hy : e₁.perform (P.recorded.setAddress name g.addressing) with
        | mk answer e₂ =>
          have hset : e₂.calls = .setAddress name g.addressing :: e₁.calls := Env.calls_of_perform hy
          cases answer with
          | error err => rw [hset, hcalls]; rfl
          | ok u => rw [hset, hcalls]; rfl

theorem now_attempt (P : Platform σ) (name : String) (ask : Action σ Grant) (e : Env σ) :
    (attempt P name ask e).2.now = e.now := by
  unfold attempt
  split
  · rename_i hx
    exact Env.now_of_perform hx
  · rename_i hx
    have h1 := Env.now_of_perform hx
    split
    · exact h1
    · split <;> rename_i hy <;> exact (Env.now_of_perform hy).trans h1

theorem attempt_increasing {P : Platform σ} {name : String} {ask : Action σ Grant} {e e' : Env σ} {g : Grant}
    {timers : Timers} (h : attempt P name ask e = (.leased g timers, e')) : timers.Increasing := by
  unfold attempt at h
  split at h
  · cases h
  · split at h
    · cases h
    · rename_i ht
      split at h <;> cases h
      exact Timers.increasing_of_ofServer ht

theorem calls_becomeConnected (m : ModeState) (e : Env (Recorded σ)) : (becomeConnected m e).2.calls = e.calls := by
  unfold becomeConnected
  split <;> rfl

/-! ## Sessions -/

theorem askForLease_tried (name : String) {c : Client} (hc : m.client = some c) (e : Env (Recorded σ)) :
    (∃ c', (askForLease P.recorded name m e).1.client = some c' ∧ c.Tried .request e.now c') ∧
      (askForLease P.recorded name m e).2.calls = trial P name .request c.session e.platform.inner ++ e.calls := by
  have hcalls := calls_attempt (P := P) name .request c.session e
  have hnow := now_attempt P.recorded name (P.recorded.request c.session) e
  unfold askForLease
  rw [hc]
  simp only
  change (attempt P.recorded name (P.recorded.request c.session) e).2.calls = _ at hcalls
  split <;> rename_i hx <;> rw [hx] at hcalls hnow
  · refine ⟨⟨_, rfl, ?_⟩, (calls_becomeConnected _ _).trans hcalls⟩
    rw [← hnow]
    exact .granted (attempt_increasing hx)
  · refine ⟨⟨_, rfl, ?_⟩, hcalls⟩
    rw [← hnow]
    exact .failed _

theorem extendLease_tried (name : String) (mode : Renewal) {c : Client} (hc : m.client = some c)
    (e : Env (Recorded σ)) :
    (∃ c', (extendLease P.recorded name mode m e).1.client = some c' ∧ c.Tried mode.phase e.now c') ∧
      (extendLease P.recorded name mode m e).2.calls =
        trial P name mode.phase c.session e.platform.inner ++ e.calls := by
  have hcalls := calls_attempt (P := P) name mode.phase c.session e
  have hnow := now_attempt P.recorded name (P.recorded.renew c.session mode) e
  rw [Phase.ask_renewal] at hcalls
  unfold extendLease
  rw [hc]
  simp only
  split <;> rename_i hx <;> rw [hx] at hcalls hnow
  · refine ⟨⟨_, rfl, ?_⟩, hcalls⟩
    rw [← hnow]
    exact .granted (attempt_increasing hx)
  · refine ⟨⟨_, rfl, ?_⟩, hcalls⟩
    rw [← hnow]
    exact .failed _

/-- The address is cleared, and then a lease is requested as if there had been none. -/
theorem startOver_tried (name : String) {c : Client} (hc : m.client = some c) (e : Env (Recorded σ)) :
    (∃ c', (startOver P.recorded name m e).1.client = some c' ∧ c.forget.Tried .request e.now c') ∧
      (startOver P.recorded name m e).2.calls =
        trial P name .request c.session (P.setAddress name .unspecified e.platform.inner).2 ++
          .setAddress name .unspecified :: e.calls := by
  have hforget : ({ m with
      address := .unspecified, client := m.client.map Client.forget, status := .connecting } : ModeState).client =
      some c.forget := congrArg (Option.map Client.forget) hc
  have htried (e₁ : Env (Recorded σ)) := askForLease_tried (P := P) name hforget e₁
  unfold startOver
  simp only
  split <;> exact htried _

/-- What the answer to an event makes of the client. One attempt is made, in the session that was held
    or in one without a lease; or none is. -/
inductive Tended (m : ModeState) (e : Env (Recorded σ)) : ModeState × Env (Recorded σ) → Prop
  | idle {m' : ModeState} {e' : Env (Recorded σ)} :
      m'.client = m.client ∨ m'.client = none → e'.attempts = e.attempts → Tended m e (m', e')
  | tried {m' : ModeState} {e' : Env (Recorded σ)} {c c' : Client} (p : Phase) :
      m.client = some c ∨ p = .request → (∀ c₀, m.client = some c₀ → c.failures = c₀.failures) →
      (p = .request ↔ c.lease = none) → c.Tried p e.now c' → m'.client = some c' →
      e'.attempts = p :: e.attempts → Tended m e (m', e')

theorem tended_askForLease (name : String) {c : Client} (hc : m.client = some c) (hl : c.lease = none)
    (e : Env (Recorded σ)) : Tended m e (askForLease P.recorded name m e) := by
  obtain ⟨⟨c', hc', ht⟩, hcalls⟩ := askForLease_tried (P := P) name hc e
  have hp : Phase.request = .request ↔ c.lease = none := ⟨fun _ => hl, fun _ => rfl⟩
  refine .tried .request (.inl hc) (fun c₀ hc₀ => ?_) hp ht hc' (attempts_of_trial hcalls)
  rw [hc] at hc₀
  cases hc₀
  rfl

theorem tended_extendLease (name : String) (mode : Renewal) {c : Client} (hc : m.client = some c)
    (hl : c.lease.isSome = true) (e : Env (Recorded σ)) : Tended m e (extendLease P.recorded name mode m e) := by
  obtain ⟨⟨c', hc', ht⟩, hcalls⟩ := extendLease_tried (P := P) name mode hc e
  have hp : mode.phase = .request ↔ c.lease = none := by
    constructor
    · intro hp
      cases mode <;> cases hp
    · intro hn
      rw [hn] at hl
      cases hl
  refine .tried mode.phase (.inl hc) (fun c₀ hc₀ => ?_) hp ht hc' (attempts_of_trial hcalls)
  rw [hc] at hc₀
  cases hc₀
  rfl

theorem attempts_startOver (name : String) {c : Client} (hc : m.client = some c) (e : Env (Recorded σ)) :
    (startOver P.recorded name m e).2.attempts = .request :: e.attempts := by
  obtain ⟨-, hcalls⟩ := startOver_tried (P := P) name hc e
  -- The call that clears the address is no attempt.
  have hset : Env.attempts ({ e with platform := { e.platform with
      calls := .setAddress name .unspecified :: e.calls } } : Env (Recorded σ)) = e.attempts :=
    List.filterMap_cons_none rfl
  rw [← hset]
  exact attempts_of_trial hcalls

theorem tended_startOver (name : String) {c : Client} (hc : m.client = some c) (e : Env (Recorded σ)) :
    Tended m e (startOver P.recorded name m e) := by
  obtain ⟨⟨c', hc', ht⟩, -⟩ := startOver_tried (P := P) name hc e
  have hattempts := attempts_startOver (P := P) name hc e
  refine .tried .request (.inr rfl) (fun c₀ hc₀ => ?_) ⟨fun _ => rfl, fun _ => rfl⟩ ht hc' hattempts
  rw [hc] at hc₀
  cases hc₀
  rfl

theorem tended_tick {b : Bool} (retry : Nat) (h : m.Consistent (some b)) (e : Env (Recorded σ)) :
    Tended m e (tick P.recorded retry m e) := by
  have hidle : Tended m e (m, e) := .idle (.inl rfl) rfl
  unfold tick
  split
  · exact hidle
  · split
    · rename_i c name hc _
      split
      · exact hidle
      · split
        · rename_i hready
          simp only [Bool.and_eq_true, decide_eq_true_eq] at hready
          exact tended_askForLease name hc (h.no_lease hready.1.1 hc) e
        · exact hidle
      · split
        · rename_i hs
          exact tended_extendLease name _ hc (((h.session c hc).connectedByLease b rfl).2 hs) e
        · exact hidle
      · exact tended_startOver name hc e
    · exact hidle

/-! ## Links -/

theorem attempts_becomeConnected (m : ModeState) (e : Env (Recorded σ)) :
    (becomeConnected m e).2.attempts = e.attempts :=
  congrArg (List.filterMap PlatformCall.phase?) (calls_becomeConnected m e)

/-- Calls that give an interface a static address. -/
theorem hidden_setStatic {β : Type} {view : PlatformCall → Option β}
    (hmethod : ∀ name method, view (.setMethod name method) = none)
    (haddress : ∀ name address, view (.setAddress name address) = none) (name : String) (texts : AddressTexts)
    (e : Env (Recorded σ)) :
    (setStatic P.recorded name texts e).2.calls.filterMap view = e.calls.filterMap view := by
  unfold setStatic
  split
  · rfl
  · split
    · rename_i hx
      exact Env.hidden_of_perform hx fun _ => hmethod _ _
    · rename_i hx
      have h1 := Env.hidden_of_perform hx fun _ => hmethod _ _
      split <;> rename_i hy <;> exact (Env.hidden_of_perform hy fun _ => haddress _ _).trans h1

theorem tended_assignStatic (name : String) (m : ModeState) (e : Env (Recorded σ)) :
    Tended m e (assignStatic P.recorded name m e) := by
  have h1 : (setStatic P.recorded name m.parameters.normal.ip e).2.attempts = e.attempts :=
    hidden_setStatic (fun _ _ => rfl) (fun _ _ => rfl) name _ e
  unfold assignStatic
  split <;> rename_i hx <;> rw [hx] at h1
  · exact .idle (.inl rfl) ((attempts_becomeConnected _ _).trans h1)
  · exact .idle (.inl rfl) h1

/-- A lease is asked for at once in a session that is opened. -/
theorem tended_assignLease {b : Bool} (name : String) (h : m.Consistent (some b)) (hs : m.status = .connecting)
    (e : Env (Recorded σ)) : Tended m e (assignLease P.recorded name m e) := by
  unfold assignLease
  split
  · split <;> rename_i hx <;> have h1 := Env.attempts_of_perform hx fun _ => rfl
    · exact .idle (.inl rfl) ((attempts_becomeConnected _ _).trans h1)
    · exact .idle (.inl rfl) h1
  · split
    · rename_i c hc
      exact tended_askForLease name hc (h.no_lease hs hc) e
    · rename_i hc
      have hopen : (openSession P.recorded name e).2.attempts = e.attempts ∧
          (openSession P.recorded name e).2.now = e.now := by
        unfold openSession
        split <;> rename_i hx <;> have h1 := Env.attempts_of_perform hx fun _ => rfl
        · exact ⟨h1, Env.now_of_perform hx⟩
        · have h2 := Env.now_of_perform hx
          exact ⟨(Env.attempts_perform _ _ fun _ => rfl).trans h1, h2⟩
      split <;> rename_i hx <;> rw [hx] at hopen
      · exact .idle (.inl rfl) hopen.1
      · rename_i id e₁
        have hnew : ({ m with client := some { session := id } } : ModeState).client = some { session := id } := rfl
        obtain ⟨⟨c', hc', ht⟩, hcalls⟩ := askForLease_tried (P := P) name hnew e₁
        rw [hopen.2] at ht
        refine .tried .request (.inr rfl) (fun c₀ hc₀ => ?_) ⟨fun _ => rfl, fun _ => rfl⟩ ht hc' ?_
        · rw [hc] at hc₀
          cases hc₀
        · have ha := attempts_of_trial hcalls
          rw [hopen.1] at ha
          exact ha

theorem tended_gainLink {b : Bool} (h : m.Consistent (some b)) (hs : m.status = .connecting)
    (e : Env (Recorded σ)) : Tended m e (gainLink P.recorded m e) := by
  unfold gainLink
  split
  · exact .idle (.inl rfl) rfl
  · split
    · exact tended_assignStatic _ m e
    · exact tended_assignLease _ h hs e

theorem tended_loseLink (m : ModeState) (e : Env (Recorded σ)) : Tended m e (loseLink P.recorded m e) := by
  have hclient : (loseLink P.recorded m e).1.client = none := by rw [loseLink_fst]
  have hattempts : (loseLink P.recorded m e).2.attempts = e.attempts := by
    cases hc : m.client with
    | none =>
      simp only [loseLink, hc]
      split
      · split <;> rfl
      · rfl
    | some c =>
      have hup : (hangUp P.recorded c.session e).attempts = e.attempts := Env.attempts_perform e _ fun _ => rfl
      simp only [loseLink, hc]
      split
      · split <;> exact hup
      · exact hup
  exact .idle (.inr hclient) hattempts

theorem attempts_restart (m : ModeState) (e : Env (Recorded σ)) :
    (restart P.recorded m e).2.attempts = e.attempts := by
  unfold restart
  split
  · rfl
  · split <;> rename_i hx
    · exact Env.attempts_of_perform hx fun _ => rfl
    · have h1 := Env.attempts_of_perform hx fun _ => rfl
      exact (Env.attempts_perform _ _ fun _ => rfl).trans h1

/-- What is done with other flags. -/
theorem Tended.flags {ifUp linkUp : Bool} {x : ModeState × Env (Recorded σ)}
    (h : Tended { m with ifUp, linkUp } e x) : Tended m e x := by
  cases h with
  | idle hc ha => exact .idle hc ha
  | tried p horigin hsame hp ht hc' ha => exact .tried p horigin hsame hp ht hc' ha

theorem Tended.congr {x y : ModeState × Env (Recorded σ)} (h : Tended m e x) (hclient : y.1.client = x.1.client)
    (hattempts : y.2.attempts = x.2.attempts) : Tended m e y := by
  obtain ⟨m', e'⟩ := y
  cases h with
  | idle hc ha =>
    refine .idle ?_ (hattempts.trans ha)
    rcases hc with hc | hc
    · exact .inl (hclient.trans hc)
    · exact .inr (hclient.trans hc)
  | tried p horigin hsame hp ht hc' ha =>
    exact .tried p horigin hsame hp ht (hclient.trans hc') (hattempts.trans ha)

theorem Tended.restarted {x : ModeState × Env (Recorded σ)} (h : Tended m e x) :
    Tended m e (restart P.recorded x.1 x.2) :=
  h.congr (congrArg ModeState.client (restart_fst P.recorded x.1 x.2)) (attempts_restart x.1 x.2)

end Link

/-! ## Events -/

namespace Dispatch

open Link

variable {b : Bool}

theorem tended_bothUp (h : m.Consistent (some b)) (e : Env (Recorded σ)) : Tended m e (bothUp P.recorded m e) := by
  unfold bothUp
  split
  · rename_i hready
    simp only [Bool.and_eq_true, decide_eq_true_eq] at hready
    exact tended_gainLink h hready.1.1 e
  · exact .idle (.inl rfl) rfl

theorem tended_ethernet (event : Event) (h : m.Consistent (some b)) (e : Env (Recorded σ)) :
    Tended m e (ethernet P.recorded event m e) := by
  unfold ethernet
  split
  · exact .flags (tended_bothUp (h.up true m.linkUp (fun _ => rfl) id) e)
  · exact .flags (tended_bothUp (h.up m.ifUp true id (fun _ => rfl)) e)
  · exact .flags (tended_loseLink _ e)
  · exact .flags (tended_loseLink _ e)
  · exact .idle (.inl rfl) rfl

theorem tended_station (event : Event) (h : m.Consistent (some b)) (e : Env (Recorded σ)) :
    Tended m e (station P.recorded event m e) := by
  have hlost (ifUp linkUp : Bool) : Tended m e (loseLink P.recorded { m with ifUp, linkUp } e) :=
    .flags (tended_loseLink _ e)
  unfold station
  split
  · simp only
    split
    · rename_i hs
      exact .flags (tended_gainLink (h.up true true (fun _ => rfl) (fun _ => rfl)) hs e)
    · exact .idle (.inl rfl) rfl
  · simp only
    split
    · exact (hlost m.ifUp false).restarted
    · exact hlost m.ifUp false
  · simp only
    split
    · exact .idle (.inl rfl) rfl
    · exact (hlost false false).restarted
  · exact hlost m.ifUp false
  · exact hlost m.ifUp false
  · exact .idle (.inl rfl) rfl

/-- The normal mode's answer to any event. -/
theorem tended_answer (retry : Nat) (event : Event) (h : m.Consistent (some b)) (hm : m.mode = .normal)
    (e : Env (Recorded σ)) : Tended m e (answer P.recorded retry event m e) := by
  have hkind (event : Event) : Tended m e (byKind P.recorded event m e) := by
    unfold byKind
    rw [hm]
    cases m.carrierKind? with
    | none => exact .idle (.inl rfl) rfl
    | some kind =>
      cases kind with
      | ethernet => exact tended_ethernet event h e
      | wifi => exact tended_station event h e
  unfold answer
  split
  · exact tended_tick retry h e
  · split
    · exact .idle (.inl rfl) rfl
    · exact hkind _
  · exact hkind _

/-- An access point gets a static address and a DHCP server, and asks the platform for nothing else. -/
theorem hidden_answer {β : Type} {view : PlatformCall → Option β}
    (hmethod : ∀ name method, view (.setMethod name method) = none)
    (haddress : ∀ name address, view (.setAddress name address) = none)
    (hserver : ∀ name setup, view (.startServer name setup) = none) (retry : Nat) (event : Event)
    (hm : m.mode = .accessPoint) (hc : m.client = none) (e : Env (Recorded σ)) :
    (answer P.recorded retry event m e).2.calls.filterMap view = e.calls.filterMap view := by
  have hready : (apReady P.recorded m e).2.calls.filterMap view = e.calls.filterMap view := by
    unfold apReady
    split
    · rfl
    · split
      · rfl
      · rename_i name _
        have h1 := hidden_setStatic (P := P) hmethod haddress name m.parameters.accessPoint.ip
          (e.signal .apStarted true)
        simp only
        split <;> rename_i hx
        · exact (congrArg (·.2.calls.filterMap view) hx).symm.trans h1
        · rename_i address e'
          have h2 : e'.calls.filterMap view = e.calls.filterMap view :=
            (congrArg (·.2.calls.filterMap view) hx).symm.trans h1
          have h3 : (startServer P.recorded name ⟨address.address, address.netmask⟩ e').2.calls.filterMap view =
              e'.calls.filterMap view := by
            unfold startServer
            split <;> rename_i hy <;> exact Env.hidden_of_perform hy fun _ => hserver _ _
          split <;> rename_i hy <;> rw [hy] at h3 <;> exact h3.trans h2
  have hkind (event : Event) : (byKind P.recorded event m e).2.calls.filterMap view = e.calls.filterMap view := by
    unfold byKind
    rw [hm]
    simp only [accessPoint]
    split
    · split
      · exact hready
      · rfl
    · simp only [clientJoined]
      split <;> rfl
    · simp only [clientLeft]
      split
      · rfl
      · split <;> rfl
    · rfl
  unfold answer
  split
  · rw [tick_of_no_client retry hc]
  · split
    · rfl
    · exact hkind _
  · exact hkind _

end Dispatch

end

/-! ## Runs -/

def ModeState.Orderly (m : ModeState) : Prop := ∀ c, m.client = some c → c.Orderly

theorem ModeState.orderly_of_none {m : ModeState} (hc : m.client = none) : m.Orderly := by
  intro c h
  rw [hc] at h
  cases h

theorem Link.Tended.orderly {σ : Type} {m : ModeState} {e : Env (Recorded σ)} {x : ModeState × Env (Recorded σ)}
    (h : Link.Tended m e x) (hm : m.Orderly) : x.1.Orderly := by
  cases h with
  | idle hc =>
    rcases hc with hc | hc
    · intro c h
      exact hm c (hc ▸ h)
    · exact ModeState.orderly_of_none hc
  | tried p horigin _ hp ht hc' =>
    intro c₁ hc₁
    obtain rfl : _ = c₁ := Option.some.inj (hc'.symm.trans hc₁)
    refine ht.orderly ?_ hp
    rcases horigin with hc | hr
    · exact .inl (hm _ hc)
    · exact .inr hr

namespace ControlPlane

variable {σ τ : Type} {M : ControlPlane σ τ} {cap b : Bool}

theorem tended_reaction {m : ModeState} (h : m.Consistent (some b)) (hm : m.mode = .normal) (name : String)
    (event : Event) (e : Env (Recorded σ)) : Link.Tended m e (M.recorded.reaction name event m e) := by
  unfold reaction
  split
  · split
    · split
      · exact .idle (.inr rfl) rfl
      · exact .idle (.inl rfl) rfl
    · refine (Dispatch.tended_answer M.policy.retryNanos event h hm e).congr ?_ rfl
      simp only [ModeState.refresh_snd]
      rfl
  · exact .idle (.inl rfl) rfl

theorem hidden_reaction {β : Type} {view : PlatformCall → Option β}
    (hmethod : ∀ name method, view (.setMethod name method) = none)
    (haddress : ∀ name address, view (.setAddress name address) = none)
    (hserver : ∀ name setup, view (.startServer name setup) = none) {m : ModeState} (hm : m.mode = .accessPoint)
    (hc : m.client = none) (name : String) (event : Event) (e : Env (Recorded σ)) :
    (M.recorded.reaction name event m e).2.calls.filterMap view = e.calls.filterMap view := by
  unfold reaction
  split
  · split
    · rw [hc]
    · exact Dispatch.hidden_answer hmethod haddress hserver M.policy.retryNanos event hm hc e
  · rfl

/-- What the normal mode asks the platform for in answer to an event is all that most views show. -/
theorem hidden_receive {β : Type} {view : PlatformCall → Option β}
    (hmethod : ∀ name method, view (.setMethod name method) = none)
    (haddress : ∀ name address, view (.setAddress name address) = none)
    (hserver : ∀ name setup, view (.startServer name setup) = none) {s : State (Recorded σ) τ} {r : Modes}
    (hr : s.roster.modes = some r) (hl : r.Labelled) (hc : r.accessPoint.client = none) (name : String)
    (event : Event) :
    (M.recorded.receive name event s).env.calls.filterMap view =
      (M.recorded.reaction name event r.normal s.env).2.calls.filterMap view := by
  have henv : (M.recorded.receive name event s).env = _ :=
    congrArg Prod.snd (view_receive (M := M.recorded) hr name event)
  rw [henv]
  exact hidden_reaction hmethod haddress hserver (hl .accessPoint) hc name event _

/-- An event makes one attempt or none. -/
theorem tended_receive {s : State (Recorded σ) τ} {r : Modes} (hr : s.roster.modes = some r) (hl : r.Labelled)
    (h : r.Consistent (some b)) (name : String) (event : Event) :
    ∃ r', (M.recorded.receive name event s).roster.modes = some r' ∧
      Link.Tended r.normal s.env (r'.normal, (M.recorded.receive name event s).env) := by
  have hv := view_receive (M := M.recorded) hr name event
  have ht := tended_reaction (M := M) h.normal (hl .normal) name event s.env
  refine ⟨_, congrArg Prod.fst hv, ht.congr rfl ?_⟩
  exact hidden_receive (fun _ _ => rfl) (fun _ _ => rfl) (fun _ _ => rfl) hr hl h.accessPoint name event

theorem Turn.orderly {x y : ModeState × Env (Recorded σ)} (h : M.recorded.Turn cap x y) (hm : x.1.mode = .normal)
    (hcons : x.1.Consistent (some b)) (hx : x.1.Orderly) : y.1.Orderly := by
  cases h with
  | listening => exact hx
  | @answered m e name event =>
    rw [ModeState.refresh_snd]
    exact (Dispatch.tended_answer (P := M.platform) M.policy.retryNanos event hcons hm e).orderly hx
  | gaveBack => exact ModeState.orderly_of_none rfl
  | notStarted _ hs =>
    rw [Link.start_error _ hs]
    exact ModeState.orderly_of_none rfl
  | started _ _ hs =>
    obtain ⟨i, -, rfl⟩ := Link.start_ok _ hs
    rw [ModeState.refresh_snd]
    exact ModeState.orderly_of_none rfl
  | @stopped m e =>
    rw [ModeState.refresh_snd]
    generalize hstop : Link.stop M.recorded.platform m e = z
    obtain ⟨result, m', e'⟩ := z
    cases result with
    | error err =>
      obtain ⟨-, -, rfl, -⟩ := Link.stop_error _ hstop
      exact hx
    | ok u =>
      rcases Link.stop_ok_fst _ hstop with ⟨-, rfl⟩ | ⟨hc, -⟩
      · exact hx
      · exact ModeState.orderly_of_none hc

theorem invariant_orderly :
    M.recorded.Invariant (fun s _ => M.recorded.capability s = b)
      (fun v => ∀ r, v.1 = some r → r.Consistent (some b) ∧ r.normal.Orderly) where
  change hok hc hl hv r' hr' := by
    cases hc with
    | @turn r _ _ mode ht =>
      cases hr'
      obtain ⟨hcons, horderly⟩ := hv r rfl
      refine ⟨consistent_set hcons (hl r rfl) (fun b' hb => ?_) ht, ?_⟩
      · cases hb
        exact hok.symm
      · cases mode with
        | normal => exact ht.orderly (hl r rfl .normal) hcons.normal horderly
        | accessPoint => exact horderly
    | asked => exact hv r' hr'
    | fresh hi =>
      cases hr'
      refine ⟨consistent_ofInterfaces? hi, ModeState.orderly_of_none ?_⟩
      obtain ⟨_, _, hnew⟩ := get_ofInterfaces? hi .normal
      exact congrArg ModeState.client hnew
  outside _ hv := hv
  gone _ _ _ r hr := by cases hr

theorem reach_orderly {env : Env (Recorded σ)} {store : τ} {s : State (Recorded σ) τ} {r : Modes}
    (hs : M.recorded.Reach (fun s _ => M.recorded.capability s = b) (M.recorded.initial env store) s)
    (hr : s.roster.modes = some r) : r.Consistent (some b) ∧ r.normal.Orderly := by
  have hnone : (M.recorded.initial env store).roster.modes = none := rfl
  exact (hs.holds invariant_orderly (by simp [hnone]) (by simp [State.view, hnone])).1 r hr

end ControlPlane

end Connectivity
