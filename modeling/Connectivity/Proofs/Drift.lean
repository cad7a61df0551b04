/-
  Connectivity.Proofs.Drift — what every operation of a platform does to its state, every move does.
  - `Platform.Within`: each operation leads to a state in some relation to the one that it found.
  - `Within.deeds`, `Turn.within`: then so does all that a mode does.
  - `step_within`: and so does every move through the control plane.
-/

import Connectivity.Proofs.Consistency
import Connectivity.Proofs.Deeds
import Connectivity.Proofs.Moves

namespace Connectivity

/-- Each operation of a platform leads to a state that is in a relation to the one before, as it is to itself
    and to what such states lead to. -/
structure Platform.Within {σ : Type} (P : Platform σ) (R : σ → σ → Prop) : Prop where
  refl : ∀ x, R x x
  trans : ∀ {x y z}, R x y → R y z → R x z
  interfaces : ∀ x, R x (P.interfaces x).2
  configure : ∀ name setup x, R x (P.configure name setup x).2
  start : ∀ name x, R x (P.start name x).2
  announceStop : ∀ name x, R x (P.announceStop name x).2
  stop : ∀ name x, R x (P.stop name x).2
  subscribe : ∀ name x, R x (P.subscribe name x).2
  unsubscribe : ∀ name x, R x (P.unsubscribe name x).2
  status : ∀ name x, R x (P.status name x).2
  netstat : ∀ name x, R x (P.netstat name x).2
  mac : ∀ name x, R x (P.mac name x).2
  address : ∀ name x, R x (P.address name x).2
  setAddress : ∀ name addressing x, R x (P.setAddress name addressing x).2
  setMethod : ∀ name method x, R x (P.setMethod name method x).2
  openSession : ∀ name mac x, R x (P.openSession name mac x).2
  request : ∀ id x, R x (P.request id x).2
  renew : ∀ id mode x, R x (P.renew id mode x).2
  release : ∀ id x, R x (P.release id x).2
  close : ∀ id x, R x (P.close id x).2
  startServer : ∀ name setup x, R x (P.startServer name setup x).2
  stopServer : ∀ name x, R x (P.stopServer name x).2

/-! ## Links -/

section
variable {σ α : Type} {P : Platform σ} {R : σ → σ → Prop} {e e' : Env σ}

theorem within_perform {a : Action σ α} (ha : ∀ x, R x (a x).2) {answer : Except PlatformError α}
    (h : e.perform a = (answer, e')) : R e.platform e'.platform := by
  cases h
  exact ha e.platform

namespace Platform.Within

theorem errand (hP : P.Within R) (h : Errand P e e') : R e.platform e'.platform := by
  cases h with
  | signal _ _ he =>
    rw [he, Env.signal]
    exact hP.refl _
  | mac hx => exact within_perform (hP.mac _) hx
  | setAddress hx => exact within_perform (hP.setAddress _ _) hx
  | setMethod hx => exact within_perform (hP.setMethod _ _) hx
  | request hx => exact within_perform (hP.request _) hx
  | renew hx => exact within_perform (hP.renew _ _) hx
  | noSession hx => exact within_perform (hP.openSession _ _) hx
  | noServer hx => exact within_perform (hP.startServer _ _) hx

theorem errands (hP : P.Within R) (h : Errands P e e') : R e.platform e'.platform := by
  induction h with
  | refl => exact hP.refl _
  | tail _ h ih => exact hP.trans ih (hP.errand h)

theorem surrender (hP : P.Within R) (id : SessionId) (e : Env σ) :
    R e.platform (Link.surrender P id e).platform :=
  hP.trans (hP.release id _) (hP.close id _)

theorem deed (hP : P.Within R) {x y : ModeState × Env σ} (h : Deed P x y) : R x.2.platform y.2.platform := by
  cases h with
  | errands _ he => exact hP.errands he
  | opened _ _ hx => exact within_perform (hP.openSession _ _) hx
  | closed => exact hP.close _ _
  | started _ hx => exact within_perform (hP.start _) hx
  | halted _ hx => exact within_perform (hP.stop _) hx
  | served _ _ hx => exact within_perform (hP.startServer _ _) hx

theorem deeds (hP : P.Within R) {x y : ModeState × Env σ} (h : Deeds P x y) : R x.2.platform y.2.platform := by
  induction h with
  | refl => exact hP.refl _
  | tail _ h ih => exact hP.trans ih (hP.deed h)

theorem linkStart (hP : P.Within R) (kind : InterfaceKind) (p : Parameters) (m : ModeState) (e : Env σ) :
    R e.platform (Link.start P kind p m e).2.2.platform := by
  have hbringUp (name : String) (setup : InterfaceSetup) :
      R e.platform (Link.bringUp P name setup e).2.platform := by
    unfold Link.bringUp
    split <;> rename_i hx
    · exact within_perform (hP.configure name setup) hx
    · exact hP.trans (within_perform (hP.configure name setup) hx) (hP.start name _)
  unfold Link.start
  split
  · exact hP.refl _
  · rename_i i _
    split
    · exact hP.refl _
    · rename_i setup _
      have hup := hbringUp i.name setup
      split <;> rename_i hx <;> rw [hx] at hup <;> exact hup

theorem tearDown (hP : P.Within R) (carrier : Carrier) (m : ModeState) (e : Env σ) :
    R e.platform (Link.tearDown P carrier m e).2.platform := by
  have hdown (e : Env σ) : R e.platform (Link.isDown P carrier.name e).2.platform := by
    unfold Link.isDown
    split <;> rename_i hx <;> exact within_perform (hP.status _) hx
  have hserver : R e.platform (if m.serverRunning then (e.perform (P.stopServer carrier.name)).2 else e).platform := by
    split
    · exact hP.stopServer _ _
    · exact hP.refl _
  unfold Link.tearDown
  generalize (if m.serverRunning then (e.perform (P.stopServer carrier.name)).2 else e) = e₁ at hserver ⊢
  cases m.client with
  | none => exact hP.trans hserver (hdown e₁)
  | some c => exact hP.trans (hP.trans hserver (hP.surrender c.session e₁)) (hdown _)

theorem linkStop (hP : P.Within R) (m : ModeState) (e : Env σ) :
    R e.platform (Link.stop P m e).2.2.platform := by
  unfold Link.stop
  split
  · exact hP.refl _
  · rename_i carrier _
    split <;> rename_i hx <;> have hstopped := within_perform (hP.stop carrier.name) hx
    · exact hP.trans hstopped (hP.tearDown carrier m _)
    · split
      · exact hP.trans hstopped (hP.tearDown carrier m _)
      · exact hstopped

end Platform.Within

end

/-! ## Moves -/

namespace ControlPlane

variable {σ τ : Type} {M : ControlPlane σ τ} {cap : Bool} {R : σ → σ → Prop}

/-- A mode that has stopped and holds no session does nothing about an event. -/
theorem Turn.within (hP : M.platform.Within R) {x y : ModeState × Env σ} (h : M.Turn cap x y)
    (hc : x.1.status.isRunning = false → x.1.client = none) : R x.2.platform y.2.platform := by
  cases h with
  | listening => exact hP.refl _
  | @answered m e name event ha =>
    cases hr : m.status.isRunning with
    | true =>
      have hdeeds : Deeds M.platform (m, e) (Dispatch.answer M.platform M.policy.retryNanos event m e) :=
        Dispatch.deeds_answer M.policy.retryNanos event hr
      have hdone := hP.deeds hdeeds
      exact hdone
    | false =>
      have hs : m.status = .disconnecting := Status.eq_disconnecting hr (ModeState.accepts_iff.mp ha).1
      have hidle : (Dispatch.answer M.platform M.policy.retryNanos event m e).2 = e :=
        (Dispatch.answer_ending M.policy.retryNanos event hs (hc hr)).2
      rw [hidle]
      exact hP.refl _
  | gaveBack => exact hP.surrender _ _
  | @notStarted m _ e _ kind p _ _ hs =>
    have hstart := hP.linkStart kind p m.cleared e
    rw [hs] at hstart
    exact hstart
  | @started m _ e _ kind p _ _ hs =>
    have hstart := hP.linkStart kind p m.cleared e
    rw [hs] at hstart
    exact hstart
  | stopped => exact hP.linkStop _ _

theorem Asked.within (hP : M.platform.Within R) {e e' : Env σ} (h : Asked M.platform e e') :
    R e.platform e'.platform := by
  cases h with
  | signal => exact hP.refl _
  | interfaces => exact hP.interfaces _
  | subscribe name => exact hP.subscribe name _
  | unsubscribe name => exact hP.unsubscribe name _
  | status name => exact hP.status name _
  | netstat name => exact hP.netstat name _
  | announceStop name => exact hP.announceStop name _

theorem reaction_within (hP : M.platform.Within R) {m : ModeState}
    (hc : m.status.isRunning = false → m.client = none) (name : String) (event : Event) (e : Env σ) :
    R e.platform (M.reaction name event m e).2.platform := by
  unfold reaction
  split
  · rename_i ha
    split
    · split
      · exact hP.surrender _ _
      · exact hP.refl _
    · rename_i he
      exact (Turn.answered name event ha he fun _ => rfl).within hP hc
  · exact hP.refl _

/-- A mode that has stopped holds no session, so that every move stays in the relation. -/
theorem step_within (hP : M.platform.Within R) {s : State σ τ} (hl : ∀ r, s.roster.modes = some r → r.Labelled)
    (hc : ∀ r, s.roster.modes = some r → r.Consistent none) {mv : Move σ τ} (hi : mv.isInner = true) :
    R s.env.platform (M.step mv s).env.platform := by
  have hconsistent : M.Invariant (fun _ mv => mv.isInner = true) fun v => ∀ r, v.1 = some r → r.Consistent none :=
    invariant_consistent fun _ _ _ _ hb => nomatch hb
  have hI : M.Invariant (fun _ mv => mv.isInner = true) fun v =>
      (∀ r, v.1 = some r → r.Consistent none) ∧ R s.env.platform v.2.platform :=
    { change := fun hok hch hlv hv => by
        refine ⟨hconsistent.change hok hch hlv hv.1, hP.trans hv.2 ?_⟩
        cases hch with
        | turn mode ht => exact ht.within hP (hv.1 _ rfl).no_client
        | asked ha => exact ha.within hP
        | fresh => exact hP.refl _
      outside := fun hok => nomatch hok
      gone := fun hok => nomatch hok }
  exact (hI.step hi hl ⟨hc, hP.refl _⟩).1.2

end ControlPlane

end Connectivity
