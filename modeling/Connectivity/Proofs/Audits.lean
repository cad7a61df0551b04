/-
  Connectivity.Proofs.Audits — a platform that counts those of its calls that fail, under a record of all of
  them. So "every call succeeds" is said of a stretch of a run, whatever the platform would have answered to
  other calls.
  - `serverOn`: the server that the calls leave running on an interface.
  - `Spares`: calls that leave that server if none of them fails. What the normal mode does about an event is
    made of such calls (`spares_deeds`, `spares_reaction`).
-/

import Connectivity.Proofs.CallLog
import Connectivity.Proofs.Deeds
import Connectivity.Proofs.Moves

namespace Connectivity

variable {σ τ α : Type}

/-! ## Failures -/

/-- A platform's state with the number of calls that failed. -/
structure Audited (σ : Type) where
  inner : σ
  failed : Nat := 0

def audit (a : Action σ α) : Action (Audited σ) α :=
  fun x =>
    match a x.inner with
    | (.ok answer, inner) => (.ok answer, { x with inner })
    | (.error err, inner) => (.error err, ⟨inner, x.failed + 1⟩)

theorem failed_of_audit_ok {a : Action σ α} {x x' : Audited σ} {y : α} (h : audit a x = (.ok y, x')) :
    x'.failed = x.failed := by
  unfold audit at h
  split at h <;> cases h
  rfl

theorem failed_of_audit_error {a : Action σ α} {x x' : Audited σ} {err : PlatformError}
    (h : audit a x = (.error err, x')) : x'.failed = x.failed + 1 := by
  unfold audit at h
  split at h <;> cases h
  rfl

theorem le_failed_audit (a : Action σ α) (x : Audited σ) : x.failed ≤ (audit a x).2.failed := by
  unfold audit
  split
  · exact Nat.le_refl _
  · exact Nat.le_succ _

def Platform.audited (P : Platform σ) : Platform (Audited σ) where
  interfaces := audit P.interfaces
  ownsDhcpClient x := P.ownsDhcpClient x.inner
  configure name setup := audit (P.configure name setup)
  start name := audit (P.start name)
  announceStop name := audit (P.announceStop name)
  stop name := audit (P.stop name)
  subscribe name := audit (P.subscribe name)
  unsubscribe name := audit (P.unsubscribe name)
  status name := audit (P.status name)
  netstat name := audit (P.netstat name)
  mac name := audit (P.mac name)
  address name := audit (P.address name)
  setAddress name addressing := audit (P.setAddress name addressing)
  setMethod name method := audit (P.setMethod name method)
  openSession name mac := audit (P.openSession name mac)
  request id := audit (P.request id)
  renew id mode := audit (P.renew id mode)
  release id := audit (P.release id)
  close id := audit (P.close id)
  startServer name setup := audit (P.startServer name setup)
  stopServer name := audit (P.stopServer name)

/-- A control plane over a platform whose calls are recorded and whose failures are counted. -/
def ControlPlane.audited (M : ControlPlane σ τ) : ControlPlane (Recorded (Audited σ)) τ :=
  { policy := M.policy, platform := M.platform.audited.recorded, store := M.store, memory := M.memory,
    valid := M.valid }

/-! ## Servers -/

/-- What a call makes of a server: on which interface, and which one runs there if it succeeds. -/
def PlatformCall.server? : PlatformCall → Option (String × Option ServerSetup)
  | .startServer name setup => some (name, some setup)
  | .stopServer name => some (name, none)
  | _ => none

/-- The server that calls, the latest first and none of them failed, leave running on an interface. -/
def serverOn (name : String) (calls : List PlatformCall) : Option ServerSetup :=
  ((calls.filterMap PlatformCall.server?).find? (·.1 = name)).bind (·.2)

theorem serverOn_cons_of_none {call : PlatformCall} (h : call.server? = none) (name : String)
    (calls : List PlatformCall) : serverOn name (call :: calls) = serverOn name calls := by
  simp [serverOn, h]

theorem serverOn_startServer (name : String) (setup : ServerSetup) (calls : List PlatformCall) :
    serverOn name (.startServer name setup :: calls) = some setup := by
  simp [serverOn, PlatformCall.server?]

namespace Env

variable {name : String} {e e' e'' : Env (Recorded (Audited σ))} {answer : Except PlatformError α}
  {call : Except PlatformError α → PlatformCall} {a : Action σ α}

/-- How many calls have failed. -/
def failed (e : Env (Recorded (Audited σ))) : Nat := e.platform.inner.failed

theorem failed_of_ok {x : α} (h : e.perform (record call (audit a)) = (.ok x, e')) : e'.failed = e.failed := by
  cases hx : audit a e.platform.inner
  simp only [perform, record, hx] at h
  cases h
  exact failed_of_audit_ok hx

theorem failed_of_error {err : PlatformError} (h : e.perform (record call (audit a)) = (.error err, e')) :
    e'.failed = e.failed + 1 := by
  cases hx : audit a e.platform.inner
  simp only [perform, record, hx] at h
  cases h
  exact failed_of_audit_error hx

/-- Calls were made that leave the server of an interface, unless one of them failed. -/
structure Spares (name : String) (e e' : Env (Recorded (Audited σ))) : Prop where
  failed : e.failed ≤ e'.failed
  server : e'.failed = e.failed → serverOn name e'.calls = serverOn name e.calls

theorem Spares.refl (name : String) (e : Env (Recorded (Audited σ))) : e.Spares name e := ⟨Nat.le_refl _, fun _ => rfl⟩

theorem Spares.trans (h : e.Spares name e') (h' : e'.Spares name e'') : e.Spares name e'' := by
  have hle := h.failed
  have hle' := h'.failed
  refine ⟨Nat.le_trans hle hle', fun hf => ?_⟩
  rw [h'.server (by omega), h.server (by omega)]

theorem spares_of_perform (h : e.perform (record call (audit a)) = (answer, e'))
    (hcall : (call answer).server? = none) : e.Spares name e' := by
  refine ⟨?_, fun _ => by rw [calls_of_perform h, serverOn_cons_of_none hcall]⟩
  cases answer with
  | ok x => exact Nat.le_of_eq (failed_of_ok h).symm
  | error err =>
    rw [failed_of_error h]
    exact Nat.le_succ _

/-- Nothing is said of the server after a call that failed. -/
theorem spares_of_error {err : PlatformError} (h : e.perform (record call (audit a)) = (.error err, e')) :
    e.Spares name e' := by
  have hf := failed_of_error h
  exact ⟨by omega, fun hsame => by omega⟩

end Env

/-! ## Events -/

variable {P : Platform σ} {name : String} {e e' : Env (Recorded (Audited σ))}
  {x y : ModeState × Env (Recorded (Audited σ))}

theorem spares_errand (h : Errand P.audited.recorded e e') : e.Spares name e' := by
  cases h with
  | signal x on hx =>
    subst hx
    exact ⟨Nat.le_refl _, fun _ => rfl⟩
  | mac hx => exact Env.spares_of_perform hx rfl
  | setAddress hx => exact Env.spares_of_perform hx rfl
  | setMethod hx => exact Env.spares_of_perform hx rfl
  | request hx => exact Env.spares_of_perform hx rfl
  | renew hx => exact Env.spares_of_perform hx rfl
  | noSession hx => exact Env.spares_of_perform hx rfl
  | noServer hx => exact Env.spares_of_error hx

theorem spares_errands (h : Errands P.audited.recorded e e') : e.Spares name e' := by
  induction h with
  | refl => exact .refl name e
  | tail _ hx ih => exact ih.trans (spares_errand hx)

/-- Only an access point starts a server. -/
theorem spares_deed (h : Deed P.audited.recorded x y) (hm : x.1.mode = .normal) :
    y.1.mode = .normal ∧ x.2.Spares name y.2 := by
  cases h with
  | errands hn he => exact ⟨(ModeState.mode_of_fixed hn.fixed).trans hm, spares_errands he⟩
  | opened _ _ hx => exact ⟨hm, Env.spares_of_perform hx rfl⟩
  | closed => exact ⟨hm, Env.spares_of_perform rfl rfl⟩
  | started _ hx => exact ⟨hm, Env.spares_of_perform hx rfl⟩
  | halted _ hx => exact ⟨hm, Env.spares_of_perform hx rfl⟩
  | served ha =>
    rw [hm] at ha
    cases ha

theorem spares_deeds (h : Deeds P.audited.recorded x y) (hm : x.1.mode = .normal) :
    y.1.mode = .normal ∧ x.2.Spares name y.2 := by
  induction h with
  | refl => exact ⟨hm, .refl name x.2⟩
  | tail _ hd ih =>
    obtain ⟨hm', hs⟩ := ih
    obtain ⟨hm'', hs'⟩ := spares_deed hd hm'
    exact ⟨hm'', hs.trans hs'⟩

namespace ControlPlane

variable {M : ControlPlane σ τ}

/-- What the normal mode does about an event. -/
theorem spares_reaction {m : ModeState} (hm : m.mode = .normal) (hc : m.status.isRunning = false → m.client = none)
    (name' : String) (event : Event) (e : Env (Recorded (Audited σ))) :
    e.Spares name (M.audited.reaction name' event m e).2 := by
  by_cases ha : m.accepts name' = true
  · unfold reaction
    rw [if_pos ha]
    split
    · cases m.client with
      | none => exact .refl name e
      | some c => exact (Env.spares_of_perform rfl rfl).trans (Env.spares_of_perform rfl rfl)
    · cases hrun : m.status.isRunning with
      | true => exact (spares_deeds (Dispatch.deeds_answer M.policy.retryNanos event hrun) hm).2
      | false =>
        have hs := Status.eq_disconnecting hrun (ModeState.accepts_iff.mp ha).1
        have hstill : (Dispatch.answer M.platform.audited.recorded M.policy.retryNanos event m e).2 = e :=
          (Dispatch.answer_ending _ event hs (hc hrun)).2
        show e.Spares name (Dispatch.answer M.platform.audited.recorded M.policy.retryNanos event m e).2
        rw [hstill]
        exact .refl name e
  · rw [reaction_of_not_accepts (eq_false_of_ne_true ha)]
    exact .refl name e

end ControlPlane

open Simulation in
/-- The camera with its calls recorded and its failures counted. -/
def Camera.auditing : ControlPlane.State (Recorded (Audited Board)) Shelf :=
  plane.audited.initial { platform := { inner := { inner := Board.ofInterfaces Network.twoPortBoard } } }
    { inner := {} }

end Connectivity
