/-
  Connectivity.Proofs.LinkOrder — link events may come in any order.
  - `setbacks`: how many calls failed and how many leases were too short to keep, on a platform that counts
    both (`exacting`). No move takes any back (`exacting_within`).
  - `gainLink_joins`: without a setback, a link that is gained connects its mode.
  - `answer_linkStatus`: so that interface and link alone say whether a mode is connected, and go on saying it
    after any event.
  - `run_linkStatus`: so that events that leave the same flags leave the same status, in whichever order they came.
-/

import Connectivity.Proofs.Configurations
import Connectivity.Proofs.Drift
import Connectivity.Proofs.Quiet
import Connectivity.Proofs.Serving

namespace Connectivity

variable {σ τ α : Type}

/-- The status of a running mode, as interface and link have it. -/
def ModeState.linkStatus (m : ModeState) : Status := if m.ifUp && m.linkUp then .connected else .connecting

/-! ## Setbacks -/

/-- Counts a lease that is too short to keep like a call that failed. -/
def auditLease (a : Action σ Grant) : Action (Audited σ) Grant :=
  fun x =>
    match audit a x with
    | (.ok g, x) => (.ok g, if g.leaseTime < Timers.shortest then { x with failed := x.failed + 1 } else x)
    | (.error err, x) => (.error err, x)

def Platform.exacting (P : Platform σ) : Platform (Audited σ) :=
  { P.audited with
    request := fun id => auditLease (P.request id)
    renew := fun id mode => auditLease (P.renew id mode) }

/-- A control plane over a platform whose setbacks are counted. -/
def ControlPlane.exacting (M : ControlPlane σ τ) : ControlPlane (Audited σ) τ :=
  { policy := M.policy, platform := M.platform.exacting, store := M.store, memory := M.memory, valid := M.valid }

theorem le_failed_auditLease (a : Action σ Grant) (x : Audited σ) : x.failed ≤ (auditLease a x).2.failed := by
  have hle := le_failed_audit a x
  unfold auditLease
  split <;> rename_i hx <;> rw [hx] at hle
  · split
    · exact Nat.le_succ_of_le hle
    · exact hle
  · exact hle

/-- Setbacks are not taken back. -/
theorem Platform.exacting_within (P : Platform σ) : P.exacting.Within (fun x y => x.failed ≤ y.failed) where
  refl _ := Nat.le_refl _
  trans := Nat.le_trans
  interfaces := le_failed_audit _
  configure _ _ := le_failed_audit _
  start _ := le_failed_audit _
  announceStop _ := le_failed_audit _
  stop _ := le_failed_audit _
  subscribe _ := le_failed_audit _
  unsubscribe _ := le_failed_audit _
  status _ := le_failed_audit _
  netstat _ := le_failed_audit _
  mac _ := le_failed_audit _
  address _ := le_failed_audit _
  setAddress _ _ := le_failed_audit _
  setMethod _ _ := le_failed_audit _
  openSession _ _ := le_failed_audit _
  request _ := le_failed_auditLease _
  renew _ _ := le_failed_auditLease _
  release _ := le_failed_audit _
  close _ := le_failed_audit _
  startServer _ _ := le_failed_audit _
  stopServer _ := le_failed_audit _

namespace Env

variable {e e' : Env (Audited σ)}

/-- How many calls have failed, and leases were too short to keep. -/
def setbacks (e : Env (Audited σ)) : Nat := e.platform.failed

theorem setbacks_of_ok {a : Action σ α} {y : α} (h : e.perform (audit a) = (.ok y, e')) :
    e'.setbacks = e.setbacks := by
  cases hx : audit a e.platform
  simp only [perform, hx] at h
  cases h
  exact failed_of_audit_ok hx

theorem setbacks_of_error {a : Action σ α} {err : PlatformError} (h : e.perform (audit a) = (.error err, e')) :
    e'.setbacks = e.setbacks + 1 := by
  cases hx : audit a e.platform
  simp only [perform, hx] at h
  cases h
  exact failed_of_audit_error hx

theorem setbacks_of_lease {a : Action σ Grant} {g : Grant} (h : e.perform (auditLease a) = (.ok g, e')) :
    e.setbacks ≤ e'.setbacks ∧ (g.leaseTime < Timers.shortest → e'.setbacks = e.setbacks + 1) := by
  refine ⟨within_perform (R := fun x y => x.failed ≤ y.failed) (le_failed_auditLease a) h, fun hshort => ?_⟩
  simp only [perform, auditLease] at h
  split at h <;> rename_i hx <;> cases h
  simp only [setbacks, if_pos hshort, failed_of_audit_ok hx]

theorem setbacks_of_noLease {a : Action σ Grant} {err : PlatformError}
    (h : e.perform (auditLease a) = (.error err, e')) : e'.setbacks = e.setbacks + 1 := by
  simp only [perform, auditLease] at h
  split at h <;> rename_i hx <;> cases h
  exact failed_of_audit_error hx

end Env

theorem Timers.short_of_ofServer {lease renewal rebinding : UInt32} {err : Error}
    (h : ofServer lease renewal rebinding = .error err) : lease < shortest := by
  unfold ofServer at h
  split at h
  · assumption
  · split at h <;> cases h

/-! ## Links -/

/-- A mode is connected by its link, of which nothing has changed. -/
structure ModeState.Joins (m m' : ModeState) : Prop where
  status : m'.status = .connected
  ifUp : m'.ifUp = m.ifUp
  linkUp : m'.linkUp = m.linkUp

theorem ModeState.Joins.linkStatus {m m' : ModeState} (h : m.Joins m') (hup : m.ifUp = true ∧ m.linkUp = true) :
    m'.status = m'.linkStatus := by
  rw [h.status, ModeState.linkStatus, h.ifUp, h.linkUp, hup.1, hup.2]
  rfl

section
variable {P : Platform σ} {m : ModeState} {e e' : Env (Audited σ)} {name : String}

namespace Link

theorem setStatic_assigns {texts : AddressTexts} {address? : Option Addressing} {a : Addressing}
    (ha : staticAddressing texts = .ok a) (hx : setStatic P.exacting name texts e = (address?, e'))
    (hsame : e'.setbacks = e.setbacks) : address? = some a := by
  rcases setStatic_cases P.exacting name ha e with ⟨err, e₁, hm, heq⟩ | ⟨e₁, hm, ⟨err, e₂, hs, heq⟩ | ⟨e₂, -, heq⟩⟩ <;>
    cases heq.symm.trans hx
  · have herr := Env.setbacks_of_error hm
    omega
  · have hok := Env.setbacks_of_ok hm
    have herr := Env.setbacks_of_error hs
    omega
  · rfl

theorem attempt_grants {a : Action σ Grant} {result : Attempt}
    (hx : attempt P.exacting name (auditLease a) e = (result, e')) (hsame : e'.setbacks = e.setbacks) :
    ∃ g timers, result = .leased g timers := by
  unfold attempt at hx
  split at hx <;> rename_i hy
  · have herr := Env.setbacks_of_noLease hy
    cases hx
    omega
  · rename_i g e₁
    obtain ⟨hle, hshort⟩ := Env.setbacks_of_lease hy
    split at hx <;> rename_i ht
    · have herr := hshort (Timers.short_of_ofServer ht)
      cases hx
      omega
    · split at hx <;> rename_i hz <;> cases hx
      · have herr := Env.setbacks_of_error hz
        omega
      · exact ⟨_, _, rfl⟩

theorem assignStatic_joins {a : Addressing} (ha : staticAddressing m.parameters.normal.ip = .ok a)
    (hsame : (assignStatic P.exacting name m e).2.setbacks = e.setbacks) :
    m.Joins (assignStatic P.exacting name m e).1 := by
  unfold assignStatic at hsame ⊢
  split <;> rename_i hx <;> rw [hx] at hsame
  · exact ⟨rfl, rfl, rfl⟩
  · cases setStatic_assigns ha hx hsame

theorem askForLease_joins {c : Client} (hc : m.client = some c)
    (hsame : (askForLease P.exacting name m e).2.setbacks = e.setbacks) :
    m.Joins (askForLease P.exacting name m e).1 := by
  unfold askForLease at hsame ⊢
  rw [hc] at hsame ⊢
  simp only at hsame ⊢
  split <;> rename_i hx <;> rw [hx] at hsame
  · exact ⟨rfl, rfl, rfl⟩
  · obtain ⟨g, timers, hleased⟩ := attempt_grants hx hsame
    cases hleased

theorem le_askForLease (name : String) (hr : m.status.isRunning = true) (e : Env (Audited σ)) :
    e.setbacks ≤ (askForLease P.exacting name m e).2.setbacks := by
  have herrands : RunsErrands P.exacting (m, e) (askForLease P.exacting name m e) := runsErrands_askForLease name hr
  exact P.exacting_within.errands herrands.2

/-- The lease is asked for anew, in a mode with the same session. -/
theorem startOver_joins {c : Client} (hc : m.client = some c)
    (hsame : (startOver P.exacting name m e).2.setbacks = e.setbacks) :
    m.Joins (startOver P.exacting name m e).1 := by
  have hcleared : e.setbacks ≤ (e.perform (P.exacting.setAddress name .unspecified)).2.setbacks :=
    le_failed_audit _ e.platform
  let m' := { m with address := .unspecified, client := m.client.map Client.forget, status := .connecting }
  have hc' : m'.client = some c.forget := by simp [m', hc]
  have hjoins {e' : Env (Audited σ)} (hle : e.setbacks ≤ e'.setbacks)
      (hsame : (askForLease P.exacting name m' e').2.setbacks = e.setbacks) :
      m.Joins (askForLease P.exacting name m' e').1 := by
    have hle' : e'.setbacks ≤ (askForLease P.exacting name m' e').2.setbacks := le_askForLease name rfl e'
    have h : m'.Joins (askForLease P.exacting name m' e').1 := askForLease_joins hc' (by omega)
    exact ⟨h.status, h.ifUp, h.linkUp⟩
  refine hjoins ?_ hsame
  show e.setbacks ≤ (Env.signal _ .dhcpRecovering true).setbacks
  split <;> exact hcleared

theorem openSession_opens {answer : Except PlatformError SessionId}
    (hx : openSession P.exacting name e = (answer, e')) :
    e.setbacks ≤ e'.setbacks ∧ (e'.setbacks = e.setbacks → ∃ id, answer = .ok id) := by
  unfold openSession at hx
  split at hx <;> rename_i hy
  · have herr := Env.setbacks_of_error hy
    cases hx
    exact ⟨by omega, fun hsame => by omega⟩
  · have hok := Env.setbacks_of_ok hy
    cases answer with
    | ok id => exact ⟨Nat.le_of_eq (hok.symm.trans (Env.setbacks_of_ok hx).symm), fun _ => ⟨id, rfl⟩⟩
    | error err =>
      have herr := Env.setbacks_of_error hx
      exact ⟨by omega, fun hsame => by omega⟩

theorem assignLease_joins (hr : m.status.isRunning = true)
    (hsame : (assignLease P.exacting name m e).2.setbacks = e.setbacks) :
    m.Joins (assignLease P.exacting name m e).1 := by
  unfold assignLease at hsame ⊢
  split <;> rename_i hown
  · rw [if_pos hown] at hsame
    split <;> rename_i hx <;> rw [hx] at hsame
    · exact ⟨rfl, rfl, rfl⟩
    · have herr := Env.setbacks_of_error hx
      exact absurd (herr.symm.trans hsame) (Nat.succ_ne_self _)
  · rw [if_neg hown] at hsame
    cases hc : m.client with
    | some c =>
      simp only [hc] at hsame ⊢
      exact askForLease_joins hc hsame
    | none =>
      simp only [hc] at hsame ⊢
      cases hx : openSession P.exacting name e with
      | mk answer e₁ =>
        obtain ⟨hle, hopens⟩ := openSession_opens hx
        rw [hx] at hsame
        cases answer with
        | error err =>
          obtain ⟨id, hid⟩ := hopens hsame
          cases hid
        | ok id =>
          simp only at hsame ⊢
          let m' := { m with client := some { session := id } }
          have hr' : m'.status.isRunning = true := hr
          have hle' : e₁.setbacks ≤ (askForLease P.exacting name m' e₁).2.setbacks := le_askForLease name hr' e₁
          have hjoins : m'.Joins (askForLease P.exacting name m' e₁).1 :=
            askForLease_joins rfl (Nat.le_antisymm (Nat.le_trans (Nat.le_of_eq hsame) hle) hle')
          exact ⟨hjoins.status, hjoins.ifUp, hjoins.linkUp⟩

/-- A link that is gained connects its mode, unless there is a setback. -/
theorem gainLink_joins (hname : m.carrierName? = some name) (hr : m.status.isRunning = true)
    (ha : m.parameters.isStatic = true → ∃ a, staticAddressing m.parameters.normal.ip = .ok a)
    (hsame : (gainLink P.exacting m e).2.setbacks = e.setbacks) : m.Joins (gainLink P.exacting m e).1 := by
  unfold gainLink at hsame ⊢
  rw [hname] at hsame ⊢
  simp only at hsame ⊢
  split <;> rename_i hstatic
  · rw [if_pos hstatic] at hsame
    obtain ⟨a, ha⟩ := ha hstatic
    exact assignStatic_joins ha hsame
  · rw [if_neg hstatic] at hsame
    exact assignLease_joins hr hsame

/-- A link that is lost leaves its mode connecting. -/
theorem loseLink_linkStatus {σ : Type} (P : Platform σ) (hr : m.status.isRunning = true) (ifUp : Bool) (e : Env σ) :
    let x := loseLink P { m with ifUp, linkUp := false } e
    x.1.status = x.1.linkStatus := by
  simp only [loseLink_fst, ModeState.linkStatus, Bool.and_false, Bool.false_eq_true, if_false]
  rcases Status.isRunning_iff.mp hr with hs | hs <;> rw [hs] <;> rfl

/-- What a tick does is asked for by a session, and a session is held only while interface and link are up. -/
theorem tick_linkStatus (retry : Nat) (hsession : ∀ c, m.client = some c → m.ifUp = true ∧ m.linkUp = true)
    (hs : m.status = m.linkStatus) (hsame : (tick P.exacting retry m e).2.setbacks = e.setbacks) :
    (tick P.exacting retry m e).1.status = (tick P.exacting retry m e).1.linkStatus := by
  unfold tick at hsame ⊢
  split
  · exact hs
  · rename_i hn
    rw [if_neg hn] at hsame
    split
    · rename_i c name hc hname
      simp only [hc, hname] at hsame
      split <;> rename_i hdue <;> simp only [hdue] at hsame
      · exact hs
      · split <;> rename_i hready
        · rw [if_pos hready] at hsame
          exact (askForLease_joins hc hsame).linkStatus (hsession _ hc)
        · exact hs
      · split
        · unfold extendLease
          rw [hc]
          simp only
          split <;> exact hs
        · exact hs
      · exact (startOver_joins hc hsame).linkStatus (hsession c hc)
    · exact hs

end Link

/-! ## Events -/

namespace Dispatch

theorem bothUp_linkStatus (hname : m.carrierName? = some name) (hr : m.status.isRunning = true)
    (ha : m.parameters.isStatic = true → ∃ a, staticAddressing m.parameters.normal.ip = .ok a)
    (hup : m.status = .connected → m.ifUp = true ∧ m.linkUp = true)
    (hsame : (bothUp P.exacting m e).2.setbacks = e.setbacks) :
    (bothUp P.exacting m e).1.status = (bothUp P.exacting m e).1.linkStatus := by
  unfold bothUp at hsame ⊢
  split <;> rename_i hready
  · rw [if_pos hready] at hsame
    simp only [Bool.and_eq_true, decide_eq_true_eq] at hready
    exact (Link.gainLink_joins hname hr ha hsame).linkStatus ⟨hready.1.2, hready.2⟩
  · rcases Status.isRunning_iff.mp hr with hs | hs
    · simp only [hs, decide_true, Bool.true_and] at hready
      rw [hs, ModeState.linkStatus, if_neg hready]
    · rw [hs, ModeState.linkStatus, (hup hs).1, (hup hs).2]
      rfl

theorem ethernet_linkStatus (event : Event) (hname : m.carrierName? = some name) (hr : m.status.isRunning = true)
    (ha : m.parameters.isStatic = true → ∃ a, staticAddressing m.parameters.normal.ip = .ok a)
    (hup : m.status = .connected → m.ifUp = true ∧ m.linkUp = true) (hs : m.status = m.linkStatus)
    (hsame : (ethernet P.exacting event m e).2.setbacks = e.setbacks) :
    (ethernet P.exacting event m e).1.status = (ethernet P.exacting event m e).1.linkStatus := by
  unfold ethernet at hsame ⊢
  split at hsame
  · exact bothUp_linkStatus (m := { m with ifUp := true }) hname hr ha (fun h => ⟨rfl, (hup h).2⟩) hsame
  · exact bothUp_linkStatus (m := { m with linkUp := true }) hname hr ha (fun h => ⟨(hup h).1, rfl⟩) hsame
  · exact Link.loseLink_linkStatus _ hr false e
  · exact Link.loseLink_linkStatus _ hr m.ifUp e
  · exact hs

theorem station_linkStatus (event : Event) (hname : m.carrierName? = some name) (hr : m.status.isRunning = true)
    (ha : m.parameters.isStatic = true → ∃ a, staticAddressing m.parameters.normal.ip = .ok a)
    (hs : m.status = m.linkStatus) (hsame : (station P.exacting event m e).2.setbacks = e.setbacks) :
    (station P.exacting event m e).1.status = (station P.exacting event m e).1.linkStatus := by
  unfold station at hsame ⊢
  split at hsame
  · simp only at hsame ⊢
    split <;> rename_i hwaits
    · rw [if_pos hwaits] at hsame
      have hjoins := Link.gainLink_joins (m := { m with ifUp := true, linkUp := true }) hname hr ha hsame
      exact hjoins.linkStatus ⟨rfl, rfl⟩
    · exact (Status.isRunning_iff.mp hr).resolve_left hwaits
  · simp only
    split
    · rw [Link.restart_fst]
      exact Link.loseLink_linkStatus _ hr m.ifUp e
    · exact Link.loseLink_linkStatus _ hr m.ifUp e
  · simp only
    split <;> rename_i hends
    · rw [hends] at hr
      cases hr
    · rw [Link.restart_fst]
      exact Link.loseLink_linkStatus _ hr false e
  · exact Link.loseLink_linkStatus _ hr m.ifUp e
  · exact Link.loseLink_linkStatus _ hr m.ifUp e
  · exact hs

/-- Unless there is a setback, interface and link alone say whether a running mode is connected. -/
theorem answer_linkStatus (retry : Nat) (event : Event) (hm : m.mode = .normal) (hcons : m.Consistent none)
    (hr : m.status.isRunning = true)
    (ha : m.parameters.isStatic = true → ∃ a, staticAddressing m.parameters.normal.ip = .ok a)
    (hs : m.status = m.linkStatus) (hsame : (answer P.exacting retry event m e).2.setbacks = e.setbacks) :
    (answer P.exacting retry event m e).1.status = (answer P.exacting retry event m e).1.linkStatus := by
  obtain ⟨c, -, hcarrier, -⟩ := hcons.carrier (Status.ne_of_isRunning hr)
  have hname : m.carrierName? = some c.name := ModeState.carrierName?_of_carrier hcarrier
  have hkind (event : Event) (hsame : (byKind P.exacting event m e).2.setbacks = e.setbacks) :
      (byKind P.exacting event m e).1.status = (byKind P.exacting event m e).1.linkStatus := by
    unfold byKind at hsame ⊢
    split at hsame
    · rename_i hap
      rw [hm] at hap
      cases hap
    · exact ethernet_linkStatus event hname hr ha hcons.connected hs hsame
    · exact station_linkStatus event hname hr ha hs hsame
    · exact hs
  unfold answer at hsame ⊢
  split at hsame
  · exact Link.tick_linkStatus retry (fun c hc => (hcons.session c hc).up) hs hsame
  · split <;> rename_i hends
    · rw [hends] at hr
      cases hr
    · rw [if_neg hends] at hsame
      exact hkind _ hsame
  · exact hkind _ hsame

end Dispatch

end

namespace ControlPlane

variable {M : ControlPlane σ τ} {base : Nat}

/-- A running mode whose status interface and link say, unless there were setbacks since there were `base`. -/
structure Linked (base : Nat) (m : ModeState) (e : Env (Audited σ)) : Prop where
  running : m.status.isRunning = true
  setbacks : base ≤ e.setbacks
  status : e.setbacks = base → m.status = m.linkStatus

/-- Nothing has become of the mode, whatever has of its surroundings. -/
theorem Linked.same {m m' : ModeState} {e e' : Env (Audited σ)} (h : Linked base m e) (he : e.setbacks ≤ e'.setbacks)
    (hs : m'.status = m.status) (hlink : m'.linkStatus = m.linkStatus) : Linked base m' e' := by
  have hbase := h.setbacks
  refine ⟨hs ▸ h.running, Nat.le_trans hbase he, fun hsame => ?_⟩
  rw [hs, hlink]
  exact h.status (by omega)

theorem le_reaction {m : ModeState} (hc : m.status.isRunning = false → m.client = none) (name : String) (event : Event)
    (e : Env (Audited σ)) : e.setbacks ≤ (M.exacting.reaction name event m e).2.setbacks :=
  reaction_within (M := M.exacting) M.platform.exacting_within hc name event e

/-- What a normal mode makes of an event. -/
theorem linked_reaction {m : ModeState} {e : Env (Audited σ)} (hm : m.mode = .normal) (hcons : m.Consistent none)
    (ha : m.parameters.isStatic = true → ∃ a, staticAddressing m.parameters.normal.ip = .ok a)
    (h : Linked base m e) (name : String) (event : Event) :
    Linked base (M.exacting.reaction name event m e).1 (M.exacting.reaction name event m e).2 := by
  have hle := le_reaction (M := M) hcons.no_client name event e
  by_cases haccepts : m.accepts name = true
  · unfold reaction at hle ⊢
    rw [if_pos haccepts] at hle ⊢
    by_cases hpre : event = .ifDownPre
    · rw [if_pos hpre] at hle ⊢
      cases hc : m.client with
      | none => exact h
      | some c =>
        rw [hc] at hle
        exact h.same hle rfl rfl
    · rw [if_neg hpre] at hle ⊢
      have hbase := h.setbacks
      have hdeeds : Deeds M.exacting.platform (m, e)
          (Dispatch.answer M.exacting.platform M.exacting.policy.retryNanos event m e) :=
        Dispatch.deeds_answer M.exacting.policy.retryNanos event h.running
      simp only [ModeState.refresh_snd] at hle ⊢
      refine ⟨hdeeds.isRunning h.running, Nat.le_trans hbase hle, fun hsame => ?_⟩
      exact Dispatch.answer_linkStatus M.policy.retryNanos event hm hcons h.running ha (h.status (by omega))
        (Nat.le_antisymm (Nat.le_trans (Nat.le_of_eq hsame) hbase) hle)
  · rw [reaction_of_not_accepts (eq_false_of_ne_true haccepts)]
    exact h

/-! ## Moves -/

/-- Nothing is started, stopped or dissolved, and nobody but the control plane calls the platform. -/
def Undisturbed (s : State (Audited σ) τ) : Move (Audited σ) τ → Prop
  | .start .. => False
  | .stop _ => False
  | .dissolve => False
  | .outside platform _ _ => (platform s.env.platform).failed = s.env.setbacks
  | _ => True

theorem undisturbed_time (s : State (Audited σ) τ) (store : τ → τ) (now : Nat) :
    Undisturbed s (.outside id store now) := rfl

section
variable {s₀ s : State (Audited σ) τ} {r : Modes} {mv : Move (Audited σ) τ} {mvs : List (Move (Audited σ) τ)}

theorem le_step (hs : M.exacting.Reach (fun _ _ => True) s₀ s) (h₀ : s₀.roster.modes = none) (hok : Undisturbed s mv) :
    s.env.setbacks ≤ (M.exacting.step mv s).env.setbacks := by
  by_cases hi : mv.isInner = true
  · exact step_within (M := M.exacting) M.platform.exacting_within (hs.labelled h₀) (fun r => hs.consistent h₀) hi
  · cases mv with
    | outside platform store now => exact Nat.le_of_eq hok.symm
    | dissolve => cases hok
    | _ => exact absurd rfl hi

theorem linked_receive (hs : M.exacting.Reach (fun _ _ => True) s₀ s) (h₀ : s₀.roster.modes = none)
    (hr : s.roster.modes = some r) (h : Linked base r.normal s.env) (name : String) (event : Event) :
    ∃ r', (M.exacting.receive name event s).roster.modes = some r' ∧
      Linked base r'.normal (M.exacting.receive name event s).env := by
  have hcons := hs.consistent h₀ hr
  have hm : r.normal.mode = .normal := hs.labelled h₀ r hr .normal
  have hv := view_receive (M := M.exacting) hr name event
  have hmodes : (M.exacting.receive name event s).roster.modes = _ := congrArg Prod.fst hv
  have henv : (M.exacting.receive name event s).env = _ := congrArg Prod.snd hv
  refine ⟨_, hmodes, ?_⟩
  rw [henv]
  -- What the normal mode was started with can be set up, so it has an address if it is to have a fixed one.
  have ha (hstatic : r.normal.parameters.isStatic = true) :
      ∃ a, staticAddressing r.normal.parameters.normal.ip = .ok a := by
    obtain ⟨p, hp⟩ := Option.isSome_iff_exists.mp (hcons.normal.saved (Status.ne_of_isRunning h.running))
    obtain ⟨kind, i, setup, hstart⟩ := hs.resumable h₀ hr .normal p hp
    have hvalid := hstart.valid
    rw [hs.labelled h₀ r hr .normal] at hvalid
    have hparameters : r.normal.parameters = p := by rw [ModeState.parameters, hp]; rfl
    rw [hparameters] at hstatic ⊢
    have hfixed : p.fixesAddress .normal = true := hstatic
    have haddress := staticAddressing_of_needed hvalid hfixed
    exact haddress
  have hnormal := linked_reaction (M := M) hm hcons.normal ha h name event
  have hle := le_reaction (M := M) (m := r.accessPoint) (fun _ => hcons.accessPoint) name event
    (M.exacting.reaction name event r.normal s.env).2
  exact hnormal.same hle rfl rfl

theorem linked_step (hs : M.exacting.Reach (fun _ _ => True) s₀ s) (h₀ : s₀.roster.modes = none)
    (hr : s.roster.modes = some r) (h : Linked base r.normal s.env) (hok : Undisturbed s mv) :
    ∃ r', (M.exacting.step mv s).roster.modes = some r' ∧ Linked base r'.normal (M.exacting.step mv s).env := by
  have hle := le_step hs h₀ hok
  by_cases hcalm : mv.isCalm = true
  · have hunstarted : M.exacting.Unstarted .normal s mv := by
      cases mv with
      | dissolve => cases hok
      | _ => trivial
    obtain ⟨r', hr'⟩ := Option.isSome_iff_exists.mp (isSome_step (hs.labelled h₀) hunstarted (by rw [hr]; rfl))
    obtain ⟨b, hb⟩ := calm_step (hs.labelled h₀ r hr) hr hcalm hr' .normal
    have hnormal : r'.normal = { r.normal with listening := b } := hb
    exact ⟨r', hr', h.same hle (by rw [hnormal]) (by rw [hnormal]; rfl)⟩
  · cases mv with
    | event name event => exact linked_receive hs h₀ hr h name event
    | start => cases hok
    | stop => cases hok
    | _ => exact absurd rfl hcalm

/-! ## Runs -/

theorem le_run (hs : M.exacting.Reach (fun _ _ => True) s₀ s) (h₀ : s₀.roster.modes = none)
    (hok : M.exacting.Allowed Undisturbed s mvs) :
    s.env.setbacks ≤ (M.exacting.run mvs s).env.setbacks := by
  induction mvs generalizing s with
  | nil => exact Nat.le_refl _
  | cons mv mvs ih =>
    obtain ⟨hmv, hok⟩ := hok
    exact Nat.le_trans (le_step hs h₀ hmv) (ih (.step mv hs trivial) hok)

theorem linked_run (hs : M.exacting.Reach (fun _ _ => True) s₀ s) (h₀ : s₀.roster.modes = none)
    (hok : M.exacting.Allowed Undisturbed s mvs) (hr : s.roster.modes = some r)
    (h : Linked base r.normal s.env) :
    ∃ r', (M.exacting.run mvs s).roster.modes = some r' ∧ Linked base r'.normal (M.exacting.run mvs s).env := by
  induction mvs generalizing s r with
  | nil => exact ⟨r, hr, h⟩
  | cons mv mvs ih =>
    obtain ⟨hmv, hok⟩ := hok
    obtain ⟨r', hr', h'⟩ := linked_step hs h₀ hr h hmv
    exact ih (.step mv hs trivial) hok hr' h'

end

variable (M) in
/-- A run in which nothing interferes and nothing sets the mode back. -/
structure Smooth (s : State (Audited σ) τ) (mvs : List (Move (Audited σ) τ)) : Prop where
  undisturbed : M.exacting.Allowed Undisturbed s mvs
  steady : (M.exacting.run mvs s).env.setbacks = s.env.setbacks

/-- Let a normal mode be started, over either kind of interface and with either method, and let events arrive in
    whatever order and number, and time pass, with nothing started, stopped or dissolved. As long as no call fails
    and no lease is too short to keep, the mode is after every event what interface and link have it: connected
    if both are up, and else connecting. So two runs that leave the same flags leave the same status, in whichever
    order their events came. -/
theorem run_linkStatus {env : Env (Audited σ)} {store : τ} {s s₁ : State (Audited σ) τ} {h : Handle}
    {source : ParameterSource} (hs : M.exacting.Reach (fun _ _ => True) (M.exacting.initial env store) s)
    (hm : s.roster.modeOf h = .ok .normal) (hok : M.exacting.start h source s = (.ok (), s₁)) :
    (∀ mvs rest, M.Smooth s₁ (mvs ++ rest) → ∃ m, (M.exacting.run mvs s₁).mode? .normal = some m ∧
      m.status = if m.ifUp && m.linkUp then .connected else .connecting) ∧
    ∀ mvs mvs' m m', M.Smooth s₁ mvs → M.Smooth s₁ mvs' →
      (M.exacting.run mvs s₁).mode? .normal = some m → (M.exacting.run mvs' s₁).mode? .normal = some m' →
      m.ifUp = m'.ifUp → m.linkUp = m'.linkUp → m.status = m'.status := by
  have hs₁ := hs.started hok
  obtain ⟨r₀, c, p, hr₁, -⟩ := start_begun (hs.labelled rfl) hm (congrArg Prod.fst hok)
  rw [hok] at hr₁
  have hbegun : Linked s₁.env.setbacks ((r₀.get .normal).begun c p) s₁.env := by
    rw [ModeState.begun, ModeState.refresh_snd]
    exact ⟨rfl, Nat.le_refl _, fun _ => rfl⟩
  have hstatus (mvs rest : List (Move (Audited σ) τ)) (hsmooth : M.Smooth s₁ (mvs ++ rest)) :
      ∃ m, (M.exacting.run mvs s₁).mode? .normal = some m ∧ m.status = m.linkStatus := by
    obtain ⟨hdone, hrest⟩ := allowed_append.mp hsmooth.undisturbed
    obtain ⟨r, hr, hlinked⟩ := linked_run hs₁ rfl hdone hr₁ hbegun
    have hle := le_run (hs₁.trans (reach_any mvs s₁)) rfl hrest
    have hsteady := hsmooth.steady
    rw [run, List.foldl_append] at hsteady
    refine ⟨r.normal, by rw [State.mode?, hr]; rfl, hlinked.status (Nat.le_antisymm ?_ hlinked.setbacks)⟩
    exact hsteady ▸ hle
  refine ⟨hstatus, fun mvs mvs' m m' hsmooth hsmooth' hmode hmode' hif hlink => ?_⟩
  obtain ⟨m₁, hm₁, hst⟩ := hstatus mvs [] (by rwa [List.append_nil])
  obtain ⟨m₂, hm₂, hst'⟩ := hstatus mvs' [] (by rwa [List.append_nil])
  obtain rfl : m₁ = m := Option.some.inj (hm₁.symm.trans hmode)
  obtain rfl : m₂ = m' := Option.some.inj (hm₂.symm.trans hmode')
  rw [hst, hst', ModeState.linkStatus, ModeState.linkStatus, hif, hlink]

end ControlPlane

namespace Camera

open Simulation ControlPlane

/-- A network over Ethernet that gives out addresses. -/
def wired : Parameters := { normal := { netifKind := 1 } }

/-- The camera with its setbacks counted. -/
def exacting : ControlPlane.State (Audited Board) Shelf :=
  plane.exacting.initial { platform := { inner := Board.ofInterfaces Network.twoPortBoard } } { inner := {} }

/-- The camera as it was started over Ethernet. -/
def dialling : ControlPlane.State (Audited Board) Shelf :=
  (plane.exacting.start normal (.given wired) (plane.exacting.run switchOn exacting)).2

/-- The cable is in before the interface is up; the lease runs out, the cable is pulled and put back. -/
def patching : List (Move (Audited Board) Shelf) :=
  [.event "eth0" .linkUp, .event "eth0" .ifUp, .event "eth0" .linkUp, .outside id id (1000000 * second),
    .event "eth0" .tick, .event "eth0" .linkDown, .event "eth0" .tick, .event "eth0" .linkUp]

/-- The interface goes up, down and up before there is a link, and a teardown is announced that does not come. -/
def flapping : List (Move (Audited Board) Shelf) :=
  [.event "eth0" .ifUp, .event "eth0" .ifDown, .event "eth0" .ifUp, .event "eth0" .linkUp, .event "eth0" .ifDownPre]

theorem patching_linkStatus :
    plane.Smooth dialling patching ∧ plane.Smooth dialling flapping ∧
    ∃ m m', (plane.exacting.run patching dialling).mode? .normal = some m ∧
      (plane.exacting.run flapping dialling).mode? .normal = some m' ∧
      (m.ifUp, m.linkUp) = (true, true) ∧ (m'.ifUp, m'.linkUp) = (true, true) ∧
      m.status = .connected ∧ m.status = m'.status := by
  have hpatching : plane.Smooth dialling patching :=
    ⟨⟨trivial, trivial, trivial, undisturbed_time _ id (1000000 * second), trivial, trivial, trivial, trivial, trivial⟩,
      by decide +kernel⟩
  have hflapping : plane.Smooth dialling flapping :=
    ⟨⟨trivial, trivial, trivial, trivial, trivial, trivial⟩, by decide +kernel⟩
  have hup : ((plane.exacting.run patching dialling).mode? .normal).all (fun m => m.ifUp && m.linkUp) = true := by
    decide +kernel
  have hup' : ((plane.exacting.run flapping dialling).mode? .normal).all (fun m => m.ifUp && m.linkUp) = true := by
    decide +kernel
  have hm : (plane.exacting.run switchOn exacting).roster.modeOf normal = .ok .normal := by decide +kernel
  have hok : (plane.exacting.start normal (.given wired) (plane.exacting.run switchOn exacting)).1 = .ok () := by
    decide +kernel
  have hok : plane.exacting.start normal (.given wired) (plane.exacting.run switchOn exacting) = (.ok (), dialling) :=
    Prod.ext hok rfl
  obtain ⟨hstatus, hsame⟩ := run_linkStatus (reach_any switchOn exacting) hm hok
  obtain ⟨m, hmode, hconnected⟩ := hstatus patching [] hpatching
  obtain ⟨m', hmode', -⟩ := hstatus flapping [] hflapping
  rw [hmode, Option.all_some, Bool.and_eq_true] at hup
  rw [hmode', Option.all_some, Bool.and_eq_true] at hup'
  rw [hup.1, hup.2] at hconnected
  refine ⟨hpatching, hflapping, m, m', hmode, hmode', Prod.ext hup.1 hup.2, Prod.ext hup'.1 hup'.2, hconnected, ?_⟩
  exact hsame patching flapping m m' hpatching hflapping hmode hmode' (hup.1.trans hup'.1.symm)
    (hup.2.trans hup'.2.symm)

end Camera

end Connectivity
