/-
  Connectivity.Proofs.LeaseTimers — the timers of a lease are in order wherever they are recorded.
  - `Timers.ofServer_cases`: they are refused or put in order for every three words of 32 bits.
  - `lease_after`: a client records the timers of its latest lease, or none of them after a refusal.
  - `Link.Source`: what a mode has recorded is in order, or it had it before, or it was denied a renewal; the last
    only at a tick (`sourced_answer`).
  - `run_timers`: so in every run recorded timers are in order, or withdrawn since a tick of the run at which
    the platform denied it.
-/

import Mathlib.Data.List.Induction
import Connectivity.Proofs.LeaseHistory
import Connectivity.Proofs.Retries

namespace Connectivity

/-! ## What a server says -/

namespace Timers

/-- What becomes of the times that a server names for a lease. -/
structure Follow (lease renewal rebinding : UInt32) (t : Timers) : Prop where
  lease_eq : t.lease = lease
  increasing : t.Increasing
  kept : 0 < renewal ∧ renewal < rebinding ∧ rebinding < lease → t.renewal = renewal ∧ t.rebinding = rebinding
  replaced : ¬ (0 < renewal ∧ renewal < rebinding ∧ rebinding < lease) →
    t.renewal.toNat = lease.toNat / 2 ∧ t.rebinding.toNat = 7 * lease.toNat / 8

theorem ofServer_cases (lease renewal rebinding : UInt32) :
    lease.toNat < 3 ∧ ofServer lease renewal rebinding = .error (.leaseTooShort lease) ∨
      3 ≤ lease.toNat ∧ ∃ t, ofServer lease renewal rebinding = .ok t ∧ t.Follow lease renewal rebinding := by
  by_cases hshort : lease < shortest
  · exact .inl ⟨hshort, if_pos hshort⟩
  · refine .inr ⟨Nat.le_of_not_lt hshort, ?_⟩
    by_cases hserver : 0 < renewal ∧ renewal < rebinding ∧ rebinding < lease
    · have hok : ofServer lease renewal rebinding = .ok { lease, renewal, rebinding } := by
        rw [ofServer, if_neg hshort, if_pos hserver]
      exact ⟨_, hok, rfl, increasing_of_ofServer hok, fun _ => ⟨rfl, rfl⟩, fun hn => absurd hserver hn⟩
    · have hok : ofServer lease renewal rebinding = .ok
          { lease, renewal := (lease.toUInt64 / 2).toUInt32
            rebinding := (lease.toUInt64 * 7 / 8).toUInt32 } := by
        rw [ofServer, if_neg hshort, if_neg hserver]
      exact ⟨_, hok, rfl, increasing_of_ofServer hok, fun h => absurd h hserver,
        fun _ => ⟨toNat_half lease, toNat_sevenEighths lease⟩⟩

end Timers

/-! ## What a client records -/

/-- A lease that is granted has timers that were made of a server's. -/
def LeaseEvent.Served : LeaseEvent → Prop
  | .granted timers _ => ∃ lease renewal rebinding, Timers.ofServer lease renewal rebinding = .ok timers
  | _ => True

namespace Client

open LeaseEvent

theorem increasing_of_leaseIn {past : List LeaseEvent} (hp : ∀ x ∈ past, x.Served) {timers : Timers} {since : Nat}
    (h : leaseIn past = some (timers, since)) : timers.Increasing := by
  induction past with
  | nil => cases h
  | cons x past ih =>
    have hpast : ∀ x ∈ past, x.Served := fun x hx => hp x (List.mem_cons_of_mem _ hx)
    cases x with
    | granted granted now =>
      obtain ⟨lease, renewal, rebinding, hok⟩ : Served (.granted granted now) := hp _ List.mem_cons_self
      cases h
      exact Timers.increasing_of_ofServer hok
    | failed => exact ih hpast h
    | forgotten => exact ih hpast h

/-- After any history the timers are those of the latest lease, unless the server has refused since. -/
theorem lease_after (session : SessionId) {past : List LeaseEvent} (hp : ∀ x ∈ past, x.Served) {t : Timers}
    (hl : (after session past).lease = some t) :
    ∃ granted since, leaseIn past = some (granted, since) ∧ granted.Increasing ∧
      t = if (recent past).any isRefusal then .withdrawn else granted := by
  rw [(remembers_after session past).lease] at hl
  obtain ⟨⟨granted, since⟩, hin, hl⟩ := Option.bind_eq_some_iff.mp hl
  refine ⟨granted, since, hin, increasing_of_leaseIn hp hin, ?_⟩
  split at hl
  · cases hl
  · split at hl <;> rename_i hrefused <;> cases hl
    · rw [if_pos hrefused]
    · rw [if_neg hrefused]

end Client

/-! ## What a mode records -/

section
variable {σ : Type} {P : Platform σ} {m : ModeState} {e : Env σ} {c : Client} {t : Timers}

namespace Link

/-- Where the timers of a session's lease come from. -/
inductive Source (client : Option Client) (refused : SessionId → Prop) (id : SessionId) (t : Timers) : Prop
  /-- The client had them before. -/
  | kept {c : Client} : client = some c → c.session = id → c.lease = some t → Source client refused id t
  | granted : t.Increasing → Source client refused id t
  | withdrawn : refused id → t = .withdrawn → Source client refused id t

/-- All that a client has recorded has a source. -/
def Sourced (client : Option Client) (refused : SessionId → Prop) (client' : Option Client) : Prop :=
  ∀ c t, client' = some c → c.lease = some t → Source client refused c.session t

/-- The server denies a session the renewal of its lease. -/
def Denies (P : Platform σ) (x : σ) (id : SessionId) : Prop :=
  ∃ renewal err, (P.renew id renewal x).1 = .error err ∧ err.leaseFailure? = some .nak

variable {client client' : Option Client} {refused refused' : SessionId → Prop}

theorem Sourced.refl (client : Option Client) (refused : SessionId → Prop) : Sourced client refused client :=
  fun _ _ hc hl => .kept hc rfl hl

theorem Sourced.of_none (h : client' = none) : Sourced client refused client' := by
  intro c t hc
  rw [h] at hc
  cases hc

theorem Sourced.of_passive (h : client' = client ∨ client' = none) : Sourced client refused client' := by
  rcases h with rfl | h
  · exact .refl client' refused
  · exact .of_none h

theorem Sourced.mono (h : Sourced client refused client') (hr : ∀ id, refused id → refused' id) :
    Sourced client refused' client' := by
  intro c t hc hl
  cases h c t hc hl with
  | kept hc hid hl => exact .kept hc hid hl
  | granted ht => exact .granted ht
  | withdrawn hrefused ht => exact .withdrawn (hr _ hrefused) ht

/-! ### Attempts -/

/-- A request that fails leaves a client without a lease as it was. -/
theorem sourced_askForLease (name : String) (hn : ∀ c, m.client = some c → c.lease = none) (e : Env σ) :
    Sourced client refused (askForLease P name m e).1.client := by
  unfold askForLease
  split
  · rename_i hc
    exact .of_none hc
  · rename_i c hc
    split
    · rename_i hx
      intro c' t hc' hl
      cases hc'
      cases hl
      exact .granted (attempt_increasing hx)
    · rename_i failure e' _
      intro c' t hc' hl
      cases hc'
      have hnone : (c.failed .request e'.now failure).lease = none := Client.lease_failed_eq_none.mpr (hn c hc)
      rw [hnone] at hl
      cases hl

theorem sourced_startOver (name : String) (m : ModeState) (e : Env σ) :
    Sourced client refused (startOver P name m e).1.client := by
  unfold startOver
  refine sourced_askForLease name (fun c hc => ?_) _
  obtain ⟨c₀, -, rfl⟩ := Option.map_eq_some_iff.mp hc
  rfl

/-- Only here a lease is withdrawn that there was. -/
theorem sourced_extendLease (name : String) (mode : Renewal) (m : ModeState) (e : Env σ) :
    Sourced m.client (Denies P e.platform) (extendLease P name mode m e).1.client := by
  unfold extendLease
  split
  · exact .refl _ _
  · rename_i c hc
    split
    · rename_i hx
      intro c' t hc' hl
      cases hc'
      cases hl
      exact .granted (attempt_increasing hx)
    · rename_i failure e' hx
      intro c' t hc' hl
      cases hc'
      by_cases hnak : failure = some .nak
      · subst hnak
        obtain ⟨err, hask, herr⟩ := attempt_refused hx
        obtain ⟨_, -, rfl⟩ := Option.map_eq_some_iff.mp hl
        exact .withdrawn ⟨mode, err, congrArg Prod.fst hask, herr⟩ rfl
      · have hl : (if failure = some .nak then c.lease.map fun _ => Timers.withdrawn else c.lease) = some t := hl
        rw [if_neg hnak] at hl
        exact .kept hc rfl hl

theorem sourced_tick (retry : Nat) (hn : m.status = .connecting → ∀ c, m.client = some c → c.lease = none)
    (e : Env σ) : Sourced m.client (Denies P e.platform) (tick P retry m e).1.client := by
  have hidle : Sourced m.client (Denies P e.platform) m.client := .refl _ _
  unfold tick
  split
  · exact hidle
  · split
    · split
      · exact hidle
      · split
        · rename_i hready
          simp only [Bool.and_eq_true, decide_eq_true_eq] at hready
          exact sourced_askForLease _ (hn hready.1.1) e
        · exact hidle
      · split
        · exact sourced_extendLease _ _ m e
        · exact hidle
      · exact sourced_startOver _ m e
    · exact hidle

/-! ### Links -/

theorem sourced_assignLease (name : String) (hn : ∀ c, m.client = some c → c.lease = none) (e : Env σ) :
    Sourced m.client refused (assignLease P name m e).1.client := by
  unfold assignLease
  split
  · split <;> exact .refl _ _
  · split
    · exact sourced_askForLease name hn e
    · split
      · exact .refl _ _
      · refine sourced_askForLease name (fun c hc => ?_) _
        cases hc
        rfl

/-- A link is gained while a lease is waited for. -/
theorem sourced_gainLink (hn : ∀ c, m.client = some c → c.lease = none) (e : Env σ) :
    Sourced m.client refused (gainLink P m e).1.client := by
  unfold gainLink
  split
  · exact .refl _ _
  · split
    · unfold assignStatic
      split <;> exact .refl _ _
    · exact sourced_assignLease _ hn e

theorem sourced_loseLink (m : ModeState) (e : Env σ) : Sourced client refused (loseLink P m e).1.client :=
  .of_none (by rw [loseLink_fst])

theorem sourced_restart (h : Sourced client refused m.client) (e : Env σ) :
    Sourced client refused (restart P m e).1.client := by
  rw [restart_fst]
  exact h

end Link

/-! ### Events -/

namespace Dispatch

open Link

variable {refused : SessionId → Prop}

theorem sourced_bothUp (hn : m.status = .connecting → ∀ c, m.client = some c → c.lease = none) (e : Env σ) :
    Sourced m.client refused (bothUp P m e).1.client := by
  unfold bothUp
  split
  · rename_i hready
    simp only [Bool.and_eq_true, decide_eq_true_eq] at hready
    exact sourced_gainLink (hn hready.1.1) e
  · exact .refl _ _

theorem sourced_ethernet (event : Event) (hn : m.status = .connecting → ∀ c, m.client = some c → c.lease = none)
    (e : Env σ) : Sourced m.client refused (ethernet P event m e).1.client := by
  unfold ethernet
  split
  · exact sourced_bothUp (m := { m with ifUp := true }) hn e
  · exact sourced_bothUp (m := { m with linkUp := true }) hn e
  · exact sourced_loseLink _ e
  · exact sourced_loseLink _ e
  · exact .refl _ _

theorem sourced_station (event : Event) (hn : m.status = .connecting → ∀ c, m.client = some c → c.lease = none)
    (e : Env σ) : Sourced m.client refused (station P event m e).1.client := by
  unfold station
  split
  · simp only
    split
    · rename_i hs
      exact sourced_gainLink (m := { m with ifUp := true, linkUp := true }) (hn hs) e
    · exact .refl _ _
  · simp only
    split
    · exact sourced_restart (sourced_loseLink _ e) _
    · exact sourced_loseLink _ e
  · simp only
    split
    · exact .refl _ _
    · exact sourced_restart (sourced_loseLink _ e) _
  · exact sourced_loseLink _ e
  · exact sourced_loseLink _ e
  · exact .refl _ _

/-- Whatever the event: what is recorded is in order, or was recorded before, or is withdrawn at a tick. -/
theorem sourced_answer (retry : Nat) (event : Event) (hm : m.mode = .normal)
    (hn : m.status = .connecting → ∀ c, m.client = some c → c.lease = none) (e : Env σ) :
    Sourced m.client (fun id => event = .tick ∧ Denies P e.platform id)
      (answer P retry event m e).1.client := by
  have hkind (event : Event) {refused : SessionId → Prop} :
      Sourced m.client refused (byKind P event m e).1.client := by
    unfold byKind
    rw [hm]
    cases m.carrierKind? with
    | none => exact .refl _ _
    | some kind =>
      cases kind with
      | ethernet => exact sourced_ethernet event hn e
      | wifi => exact sourced_station event hn e
  unfold answer
  split
  · exact (sourced_tick retry hn e).mono fun id hrefused => ⟨rfl, hrefused⟩
  · split
    · exact .refl _ _
    · exact hkind _
  · exact hkind _

end Dispatch

end

/-! ## Runs -/

namespace ControlPlane

open Link

variable {σ τ : Type} (M : ControlPlane σ τ)

/-- A tick at which a session is denied the renewal of its lease. -/
def DeniesAt (id : SessionId) (s : State σ τ) : Move σ τ → Prop
  | .event _ .tick => Denies M.platform s.env.platform id
  | _ => False

variable {M} {s : State σ τ} {own : Option Bool}

theorem sourced_reaction {m : ModeState} (hm : m.mode = .normal) (h : m.Consistent own) (name : String)
    (event : Event) (e : Env σ) :
    Sourced m.client (fun id => event = .tick ∧ Denies M.platform e.platform id)
      (M.reaction name event m e).1.client := by
  unfold reaction
  split
  · split
    · split
      · exact .of_none rfl
      · exact .refl _ _
    · simp only [ModeState.refresh_snd]
      exact Dispatch.sourced_answer _ event hm (fun hs _ hc => h.no_lease hs hc) e
  · exact .refl _ _

theorem sourced_step (hl : ∀ r, s.roster.modes = some r → r.Labelled)
    (h : ∀ r, s.roster.modes = some r → r.Consistent own) (mv : Move σ τ) :
    Sourced s.client? (fun id => M.DeniesAt id s mv) (M.step mv s).client? := by
  cases mv with
  | event name event =>
    cases hr : s.roster.modes with
    | none => exact .of_none (client_fresh hr _)
    | some r =>
      have hmodes : (M.receive name event s).roster.modes = _ := congrArg Prod.fst (view_receive hr name event)
      show Sourced _ _ (M.receive name event s).client?
      rw [State.client?_eq hmodes, State.client?_eq hr]
      refine (sourced_reaction (hl r hr .normal) (h r hr).normal name event s.env).mono ?_
      rintro id ⟨rfl, hrefused⟩
      exact hrefused
  | _ => exact .of_passive (client_passive hl (by rintro _ _ ⟨⟩))

/-- What is recorded at the end of a run is in order, or was withdrawn in the course of it. -/
theorem timers_run (env : Env σ) (store : τ) (mvs : List (Move σ τ)) {c : Client} {t : Timers}
    (hc : (M.run mvs (M.initial env store)).client? = some c) (hl : c.lease = some t) :
    t.Increasing ∨ t = .withdrawn ∧ ∃ before mv after, mvs = before ++ mv :: after ∧
      M.DeniesAt c.session (M.run before (M.initial env store)) mv := by
  induction mvs using List.reverseRecOn generalizing c with
  | nil => cases hc
  | append_singleton mvs mv ih =>
    have hreach : M.Reach (fun _ _ => True) (M.initial env store) (M.run mvs (M.initial env store)) :=
      reach_any mvs _
    have hrun : M.run (mvs ++ [mv]) (M.initial env store) = M.step mv (M.run mvs (M.initial env store)) := by
      rw [run, List.foldl_append]
      rfl
    rw [hrun] at hc
    cases sourced_step (hreach.labelled rfl) (fun _ hr => hreach.consistent rfl hr) mv c t hc hl with
    | kept hc₀ hid hl₀ =>
      refine (ih hc₀ hl₀).imp_right ?_
      rintro ⟨ht, before, mv', after, hsplit, hrefused⟩
      refine ⟨ht, before, mv', after ++ [mv], ?_, hid ▸ hrefused⟩
      rw [hsplit, List.append_assoc, List.cons_append]
    | granted ht => exact .inl ht
    | withdrawn hrefused ht => exact .inr ⟨ht, mvs, mv, [], rfl, hrefused⟩

/-- For all words of 32 bits: a lease of less than three seconds is refused, and any other gets timers that
    increase, which are the server's where those do, else half and seven eighths of it as numbers. So whatever
    happens to a client, its timers increase or a refusal has set them all to zero; and so do the timers of every
    mode in every run, where the refusal is the platform's answer at an earlier tick. -/
theorem run_timers (env : Env σ) (store : τ) (mvs : List (Move σ τ)) :
    (∀ lease renewal rebinding,
      lease.toNat < 3 ∧ Timers.ofServer lease renewal rebinding = .error (.leaseTooShort lease) ∨
        3 ≤ lease.toNat ∧
          ∃ t, Timers.ofServer lease renewal rebinding = .ok t ∧ t.Follow lease renewal rebinding) ∧
    (∀ session past, (∀ x ∈ past, x.Served) → ∀ t, (Client.after session past).lease = some t →
      ∃ granted since, LeaseEvent.leaseIn past = some (granted, since) ∧ granted.Increasing ∧
        t = if (LeaseEvent.recent past).any LeaseEvent.isRefusal then .withdrawn else granted) ∧
    ∀ r mode c t, (M.run mvs (M.initial env store)).roster.modes = some r → (r.get mode).client = some c →
      c.lease = some t →
        t.Increasing ∨ t = .withdrawn ∧ ∃ before mv after, mvs = before ++ mv :: after ∧
          M.DeniesAt c.session (M.run before (M.initial env store)) mv := by
  refine ⟨Timers.ofServer_cases, fun session past hp t hl => Client.lease_after session hp hl,
    fun r mode c t hr hc hl => ?_⟩
  cases mode with
  | normal => exact timers_run env store mvs ((State.client?_eq hr).trans hc) hl
  | accessPoint =>
    have hc : r.accessPoint.client = some c := hc
    rw [((reach_any mvs _).consistent rfl hr).accessPoint] at hc
    cases hc

end ControlPlane

namespace Camera

open Simulation ControlPlane

/-- At half of the lease the server refuses to renew it. -/
def refusal : List (Move Board Shelf) := join ++ [.outside refusing id (1800 * second), .event "wlan0" .tick]

/-- The longest lease is halved without overflow; a client has the timers that it got; and those that a refusal
    has set to zero are known by it. -/
theorem refusal_timers :
    (∃ t, Timers.ofServer 0xffffffff 0 0 = .ok t ∧
      t.renewal.toNat = 2147483647 ∧ t.rebinding.toNat = 3758096383) ∧
    (∃ t, (Client.after ⟨1⟩ Client.shaky).lease = some t ∧ t.Increasing) ∧
    ∃ r c, (plane.run refusal off).roster.modes = some r ∧ r.normal.client = some c ∧
      c.lease = some .withdrawn ∧
      ∃ before mv after, refusal = before ++ mv :: after ∧
        plane.DeniesAt c.session (plane.run before off) mv := by
  obtain ⟨hserver, hclient, hmode⟩ :=
    run_timers (M := plane) { platform := Board.ofInterfaces Network.twoPortBoard } { inner := {} } refusal
  refine ⟨?_, ?_, ?_⟩
  · obtain ⟨hshort, -⟩ | ⟨-, t, hok, ht⟩ := hserver 0xffffffff 0 0
    · exact absurd hshort (by decide)
    · obtain ⟨hrenewal, hrebinding⟩ := ht.replaced (by decide)
      exact ⟨t, hok, hrenewal, hrebinding⟩
  · have hserved : ∀ x ∈ Client.shaky, x.Served := by
      simp only [Client.shaky, List.forall_mem_cons]
      exact ⟨trivial, ⟨30, 10, 20, rfl⟩, trivial, nofun⟩
    obtain ⟨t, since, hin, ht, -⟩ := hclient ⟨1⟩ Client.shaky hserved _ rfl
    cases hin
    exact ⟨_, rfl, ht⟩
  · have hm : (plane.run refusal off).roster.modes.any (fun r =>
        r.normal.client.any fun c => decide (c.lease = some .withdrawn)) = true := by
      decide +kernel
    obtain ⟨r, hr, hm⟩ := (Option.any_eq_true _ _).mp hm
    obtain ⟨c, hc, hl⟩ := (Option.any_eq_true _ _).mp hm
    have hl : c.lease = some .withdrawn := of_decide_eq_true hl
    obtain hincreasing | ⟨-, hrefused⟩ := hmode r .normal c _ hr hc hl
    · exact absurd hincreasing.1 (by decide)
    · exact ⟨r, c, hr, hc, hl, hrefused⟩

end Camera

end Connectivity
