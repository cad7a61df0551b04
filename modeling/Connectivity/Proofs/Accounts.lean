/-
  Connectivity.Proofs.Accounts — the platform holds what the modes know of, and nothing else.
  - `Share`: what one mode's state accounts for: its session, the server it has started and the
    interface that it runs.
  - `Accounts`: the open sessions are the normal mode's, the servers the access point's, and what
    runs is run by some mode. `Accounts.opened`, …: one lemma for each way both sides change.
  - `Ledger`: a relation of shares and holdings that all these ways keep, as the accounts are one.
  - `Booked`: a ledger from the view of one mode. `booked_deed`, `booked_answer`, `booked_stop`: what
    the mode does keeps it, on a simulated board that is fair. `invariant_reconciled`: and so does every
    change of the modes.
  - `reach_accounts`: so every run keeps the accounts.
-/

import Connectivity.Proofs.Deeds
import Connectivity.Proofs.Holdings
import Connectivity.Proofs.Moves
import Connectivity.Proofs.Sessions

namespace Connectivity

open Simulation

/-! ## Shares -/

/-- What one mode accounts for. -/
structure Share where
  session : Option SessionId := none
  server : Option String := none
  interface : Option String := none

def ModeState.share (m : ModeState) : Share where
  session := m.session?
  server := if m.serverRunning then m.carrierName? else none
  interface := if m.status.isRunning then m.carrierName? else none

/-- The platform holds what the modes account for. -/
structure Accounts (share : Mode → Share) (h : Holdings) : Prop where
  session : ∀ id, h.session id = true ↔ (share .normal).session = some id
  serving : ∀ name, h.serving name = true ↔ (share .accessPoint).server = some name
  running : ∀ name, h.running name = true → ∃ mode, (share mode).interface = some name

namespace Accounts

variable {share : Mode → Share} {h : Holdings} {mode : Mode} {id : SessionId} {name : String}

/-- What a change of one mode's share leaves as it was. -/
theorem kept {α : Type} {f : Share → Option α} {x : Share} (hx : f x = f (share mode)) {mode' : Mode} {a : α} :
    f (share mode') = some a ↔ f (Function.update share mode x mode') = some a := by
  rw [Function.update_apply]
  split
  · rename_i heq
    rw [hx, heq]
  · rfl

theorem opened (ha : Accounts share h) (hs : (share .normal).session = none) (id : SessionId) :
    Accounts (Function.update share .normal { share .normal with session := some id })
      (h.setSession id true) where
  session id' := by
    have hclosed : h.session id' ≠ true := by
      rw [Ne, ha.session, hs]
      nofun
    simp only [Holdings.setSession, Function.update_apply, if_true, Option.some.injEq]
    split
    · rename_i heq
      exact ⟨fun _ => heq.symm, fun _ => rfl⟩
    · rename_i hne
      exact ⟨fun hopen => absurd hopen hclosed, fun heq => absurd heq.symm hne⟩
  serving := ha.serving
  running name hr := (ha.running name hr).imp fun _ => (kept (f := (·.interface)) (by rfl)).mp

theorem closed (ha : Accounts share h) (hs : (share .normal).session = some id) :
    Accounts (Function.update share .normal { share .normal with session := none })
      (h.setSession id false) where
  session id' := by
    simp only [Holdings.setSession, Function.update_apply, if_true]
    split
    · simp
    · rename_i hne
      rw [ha.session, hs]
      exact ⟨fun heq => absurd (Option.some.inj heq).symm hne, fun h => by cases h⟩
  serving := ha.serving
  running name hr := (ha.running name hr).imp fun _ => (kept (f := (·.interface)) (by rfl)).mp

theorem served (ha : Accounts share h)
    (hs : ∀ name', (share .accessPoint).server = some name' → name' = name) :
    Accounts (Function.update share .accessPoint { share .accessPoint with server := some name })
      (h.setServing name true) where
  session := ha.session
  serving name' := by
    simp only [Holdings.setServing, Function.update_apply, if_true, Option.some.injEq]
    split
    · rename_i heq
      exact ⟨fun _ => heq.symm, fun _ => rfl⟩
    · rename_i hne
      rw [ha.serving]
      exact ⟨fun hserver => absurd (hs _ hserver) hne, fun heq => absurd heq.symm hne⟩
  running name hr := (ha.running name hr).imp fun _ => (kept (f := (·.interface)) (by rfl)).mp

theorem unserved (ha : Accounts share h) (hs : (share .accessPoint).server = some name) :
    Accounts (Function.update share .accessPoint { share .accessPoint with server := none })
      (h.setServing name false) where
  session := ha.session
  serving name' := by
    simp only [Holdings.setServing, Function.update_apply, if_true]
    split
    · simp
    · rename_i hne
      rw [ha.serving, hs]
      exact ⟨fun heq => absurd (Option.some.inj heq).symm hne, fun h => by cases h⟩
  running name hr := (ha.running name hr).imp fun _ => (kept (f := (·.interface)) (by rfl)).mp

/-- A mode starts its interface again. -/
theorem restarted (ha : Accounts share h) (hs : (share mode).interface = some name) :
    Accounts share (h.setRunning name true) where
  session := ha.session
  serving := ha.serving
  running name' hr := by
    by_cases heq : name' = name
    · exact ⟨mode, heq ▸ hs⟩
    · refine ha.running name' ?_
      simpa [Holdings.setRunning, Function.update_apply, heq] using hr

theorem halted (ha : Accounts share h) (name : String) : Accounts share (h.setRunning name false) where
  session := ha.session
  serving := ha.serving
  running name' hr := by
    refine ha.running name' ?_
    simp only [Holdings.setRunning, Function.update_apply] at hr
    split at hr
    · cases hr
    · exact hr

theorem started (ha : Accounts share h) (hs : (share mode).interface = none) (name : String) :
    Accounts (Function.update share mode { share mode with interface := some name })
      (h.setRunning name true) where
  session id := (ha.session id).trans (kept (f := (·.session)) (by rfl))
  serving name' := (ha.serving name').trans (kept (f := (·.server)) (by rfl))
  running name' hr := by
    by_cases heq : name' = name
    · exact ⟨mode, by rw [Function.update_self, heq]⟩
    · have hr : h.running name' = true := by
        simpa [Holdings.setRunning, Function.update_apply, heq] using hr
      obtain ⟨mode', hm⟩ := ha.running name' hr
      refine ⟨mode', ?_⟩
      rw [Function.update_of_ne]
      · exact hm
      · rintro rfl
        rw [hs] at hm
        cases hm

/-- A mode gives up an interface that does not run. -/
theorem stopped (ha : Accounts share h) (hs : (share mode).interface = some name)
    (hr : h.running name = false) :
    Accounts (Function.update share mode { share mode with interface := none }) h where
  session id := (ha.session id).trans (kept (f := (·.session)) (by rfl))
  serving name' := (ha.serving name').trans (kept (f := (·.server)) (by rfl))
  running name' hr' := by
    obtain ⟨mode', hm⟩ := ha.running name' hr'
    refine ⟨mode', ?_⟩
    rw [Function.update_of_ne]
    · exact hm
    · rintro rfl
      obtain rfl : name = name' := Option.some.inj (hs.symm.trans hm)
      rw [hr] at hr'
      cases hr'

end Accounts

/-- A relation between shares and what is held that each change of both keeps, as the accounts are. -/
structure Ledger (A : (Mode → Share) → Holdings → Prop) : Prop where
  opened : ∀ {share h}, A share h → (share .normal).session = none → ∀ id,
    A (Function.update share .normal { share .normal with session := some id }) (h.setSession id true)
  closed : ∀ {share h id}, A share h → (share .normal).session = some id →
    A (Function.update share .normal { share .normal with session := none }) (h.setSession id false)
  served : ∀ {share h name}, A share h → (∀ name', (share .accessPoint).server = some name' → name' = name) →
    A (Function.update share .accessPoint { share .accessPoint with server := some name }) (h.setServing name true)
  unserved : ∀ {share h name}, A share h → (share .accessPoint).server = some name →
    A (Function.update share .accessPoint { share .accessPoint with server := none }) (h.setServing name false)
  restarted : ∀ {share h mode name}, A share h → (share mode).interface = some name → A share (h.setRunning name true)
  halted : ∀ {share h}, A share h → ∀ name, A share (h.setRunning name false)
  started : ∀ {share h mode}, A share h → (share mode).interface = none → ∀ name,
    A (Function.update share mode { share mode with interface := some name }) (h.setRunning name true)
  stopped : ∀ {share h mode name}, A share h → (share mode).interface = some name → h.running name = false →
    A (Function.update share mode { share mode with interface := none }) h

theorem Accounts.ledger : Ledger Accounts where
  opened := Accounts.opened
  closed := Accounts.closed
  served := Accounts.served
  unserved := Accounts.unserved
  restarted := Accounts.restarted
  halted := Accounts.halted
  started := Accounts.started
  stopped := Accounts.stopped

/-! ## Calls -/

namespace Env

theorem undisturbed_errand {e e' : Env Watched} (h : Errand Watched.platform e e') : Undisturbed e e' := by
  cases h with
  | signal _ _ he =>
    subst he
    exact undisturbed_signal e _ _
  | mac hx => exact undisturbed_of_quiet ((Network.quiet_mac _).behind Method.mac) hx
  | setAddress hx => exact undisturbed_of_quiet ((Network.quiet_setAddress _ _).behind Method.setAddress) hx
  | setMethod hx => exact undisturbed_of_quiet ((Network.quiet_setMethod _ _).behind Method.setMethod) hx
  | request hx => exact undisturbed_of_quiet ((Network.quiet_request _).behind Method.request) hx
  | renew hx => exact undisturbed_of_quiet ((Network.quiet_renew _ _).behind Method.renew) hx
  | noSession hx => exact undisturbed_of_error ((Network.does_openSession _).behind Method.openSession) hx
  | noServer hx => exact undisturbed_of_error ((Network.does_startServer _).behind Method.startServer) hx

theorem undisturbed_errands {e e' : Env Watched} (h : Errands Watched.platform e e') : Undisturbed e e' := by
  induction h with
  | refl => exact .refl _
  | tail _ h ih => exact ih.trans (undisturbed_errand h)

end Env

namespace Link

theorem did_hangUp (id : SessionId) (e : Env Watched) :
    Env.Did (.setSession id false) e (hangUp Watched.platform id e) :=
  Env.did_close rfl

theorem did_surrender (id : SessionId) (e : Env Watched) :
    Env.Did (.setSession id false) e (surrender Watched.platform id e) := by
  have hreleased : Env.Undisturbed e (e.perform (Watched.platform.release id)).2 :=
    Env.undisturbed_of_quiet ((Network.quiet_release id).behind Method.release) rfl
  exact hreleased.did (did_hangUp id _)

end Link

/-! ## Modes -/

/-- Only the normal mode has sessions, and only the access point a server. -/
structure ModeState.Proper (m : ModeState) : Prop where
  session : m.mode = .accessPoint → m.client = none
  server : m.mode = .normal → m.serverRunning = false

/-- A mode that is not running has neither session nor server. -/
def ModeState.Ended (m : ModeState) : Prop :=
  m.status.isRunning = false → m.client = none ∧ m.serverRunning = false

/-- What holds of a mode between its turns. -/
structure ModeState.Sound (m : ModeState) : Prop where
  proper : m.Proper
  ended : m.Ended
  carried : m.Carried

namespace ModeState

variable {m m' : ModeState}

theorem server_eq_some_iff {name : String} :
    m.share.server = some name ↔ m.carrierName? = some name ∧ m.serverRunning = true := by
  cases h : m.serverRunning <;> simp [share, h]

theorem interface_eq_some_iff {name : String} :
    m.share.interface = some name ↔ m.carrierName? = some name ∧ m.status.isRunning = true := by
  cases h : m.status.isRunning <;> simp [share, h]

theorem interface_of_running (share : Mode → Share) {mode : Mode} {name : String}
    (hr : m.status.isRunning = true) (hname : m.carrierName? = some name) :
    (Function.update share mode m.share mode).interface = some name := by
  rw [Function.update_self]
  exact interface_eq_some_iff.mpr ⟨hname, hr⟩

theorem Ended.share (h : m.Ended) (hr : m.status.isRunning = false) : m.share = {} := by
  obtain ⟨hc, hs⟩ := h hr
  simp [ModeState.share, session?, hc, hs, hr]

theorem ended_of_running (hr : m.status.isRunning = true) : m.Ended :=
  fun hend => absurd (hr.symm.trans hend) (by decide)

theorem Ended.refresh (h : m.Ended) : m.refresh.2.Ended := by
  rw [refresh_snd]
  exact h

theorem share_of_sameHoldings (h : SameHoldings m m') (hr : m.status.isRunning = true) : m'.share = m.share := by
  simp only [share, session?, h.session, h.server, h.running, hr, carrierName?_of_fixed h.fixed]

theorem Proper.sameHoldings (h : m.Proper) (hn : SameHoldings m m') : m'.Proper where
  session hm := by
    have hs := hn.session
    rw [h.session ((mode_of_fixed hn.fixed).symm.trans hm)] at hs
    exact Option.map_eq_none_iff.mp hs
  server hm := hn.server.trans (h.server ((mode_of_fixed hn.fixed).symm.trans hm))

end ModeState

/-! ## Deeds -/

section
variable {A : (Mode → Share) → Holdings → Prop} {share : Mode → Share} {mode : Mode}

/-- A mode's state as a ledger needs it, with what the platform holds if all was fair. The other
    mode's share stays. -/
structure Booked (A : (Mode → Share) → Holdings → Prop) (share : Mode → Share) (mode : Mode)
    (x : ModeState × Env Watched) : Prop where
  label : x.1.mode = mode
  proper : x.1.Proper
  accounts : x.2.fair = true → A (Function.update share mode x.1.share) x.2.holdings

namespace Booked

variable {m m' : ModeState} {e e' : Env Watched} {name : String}

/-- Nothing that is accounted for changes. -/
theorem undisturbed (h : Booked A share mode (m, e)) (hm : m'.mode = m.mode) (hp : m'.Proper)
    (hs : m'.share = m.share) (he : Env.Undisturbed e e') : Booked A share mode (m', e') where
  label := hm.trans h.label
  proper := hp
  accounts hf := by
    rw [hs, he.1]
    exact h.accounts (he.2 hf)

/-- A mode that has nothing, and goes on having nothing. -/
theorem ended (h : Booked A share mode (m, e)) (hx : m.Ended) (hr : m.status.isRunning = false)
    (hm : m'.mode = m.mode) (hx' : m'.Ended) (hr' : m'.status.isRunning = false) (he : Env.Undisturbed e e') :
    Booked A share mode (m', e') := by
  refine h.undisturbed hm ⟨fun _ => (hx' hr').1, fun _ => (hx' hr').2⟩ ?_ he
  rw [hx'.share hr', hx.share hr]

theorem opened (hA : Ledger A) (h : Booked A share mode (m, e)) (hm : m.mode = .normal)
    (hc : m.client = none) {id : SessionId} (he : Env.Did (.setSession id true) e e') :
    Booked A share mode ({ m with client := some { session := id } }, e') where
  label := h.label
  proper :=
    { session := fun hap => absurd (hm.symm.trans hap) (by decide)
      server := h.proper.server }
  accounts hf := by
    obtain rfl : mode = .normal := h.label.symm.trans hm
    obtain ⟨hfair, hholdings⟩ := he hf
    have hnone : (Function.update share .normal m.share .normal).session = none := by
      simp [ModeState.share, ModeState.session?, hc]
    have hopened := hA.opened (h.accounts hfair) hnone id
    rw [Function.update_idem, Function.update_self] at hopened
    rw [hholdings]
    exact hopened

theorem closed (hA : Ledger A) (h : Booked A share mode (m, e)) {c : Client} (hc : m.client = some c)
    (he : Env.Did (.setSession c.session false) e e') : Booked A share mode ({ m with client := none }, e') where
  label := h.label
  proper :=
    { session := fun _ => rfl
      server := h.proper.server }
  accounts hf := by
    obtain rfl : mode = .normal := by
      cases hmode : m.mode with
      | normal => exact h.label.symm.trans hmode
      | accessPoint =>
        have hnone := h.proper.session hmode
        rw [hc] at hnone
        cases hnone
    obtain ⟨hfair, hholdings⟩ := he hf
    have hsome : (Function.update share .normal m.share .normal).session = some c.session := by
      simp [ModeState.share, ModeState.session?, hc]
    have hclosed := hA.closed (h.accounts hfair) hsome
    rw [Function.update_idem, Function.update_self] at hclosed
    rw [hholdings]
    exact hclosed

theorem restarted (hA : Ledger A) (h : Booked A share mode (m, e)) (hr : m.status.isRunning = true)
    (hname : m.carrierName? = some name) (he : Env.Did (.setRunning name true) e e') :
    Booked A share mode (m, e') where
  label := h.label
  proper := h.proper
  accounts hf := by
    obtain ⟨hfair, hholdings⟩ := he hf
    rw [hholdings]
    exact hA.restarted (h.accounts hfair) (ModeState.interface_of_running share hr hname)

theorem halted (hA : Ledger A) (h : Booked A share mode (m, e)) (he : Env.Did (.setRunning name false) e e') :
    Booked A share mode (m, e') where
  label := h.label
  proper := h.proper
  accounts hf := by
    obtain ⟨hfair, hholdings⟩ := he hf
    rw [hholdings]
    exact hA.halted (h.accounts hfair) name

theorem served (hA : Ledger A) (h : Booked A share mode (m, e)) (hm : m.mode = .accessPoint)
    (hname : m.carrierName? = some name) (he : Env.Did (.setServing name true) e e') :
    Booked A share mode ({ m with serverRunning := true }, e') where
  label := h.label
  proper :=
    { session := h.proper.session
      server := fun hnormal => absurd (hm.symm.trans hnormal) (by decide) }
  accounts hf := by
    obtain rfl : mode = .accessPoint := h.label.symm.trans hm
    obtain ⟨hfair, hholdings⟩ := he hf
    have hserver : ∀ name', (Function.update share .accessPoint m.share .accessPoint).server = some name' →
        name' = name := by
      intro name' hserver
      simp only [Function.update_self, ModeState.share, hname] at hserver
      split at hserver
      · exact (Option.some.inj hserver).symm
      · cases hserver
    have hserved := hA.served (h.accounts hfair) hserver
    have hshare : { m with serverRunning := true }.share = { m.share with server := some name } :=
      congrArg (fun server => { m.share with server }) hname
    rw [Function.update_idem, Function.update_self] at hserved
    rw [hholdings, hshare]
    exact hserved

/-- The server of an access point is stopped. -/
theorem unserved (hA : Ledger A) (h : Booked A share mode (m, e)) (hs : m.serverRunning = true)
    (hname : m.carrierName? = some name) (he : Env.Did (.setServing name false) e e') :
    Booked A share mode ({ m with serverRunning := false }, e') where
  label := h.label
  proper :=
    { session := h.proper.session
      server := fun _ => rfl }
  accounts hf := by
    obtain rfl : mode = .accessPoint := by
      cases hmode : m.mode with
      | accessPoint => exact h.label.symm.trans hmode
      | normal => exact absurd (hs.symm.trans (h.proper.server hmode)) (by decide)
    obtain ⟨hfair, hholdings⟩ := he hf
    have hserver : (Function.update share .accessPoint m.share .accessPoint).server = some name := by
      rw [Function.update_self, ModeState.share, if_pos hs, hname]
    have hunserved := hA.unserved (h.accounts hfair) hserver
    rw [Function.update_idem, Function.update_self] at hunserved
    rw [hholdings]
    exact hunserved

/-- A mode without a share starts its interface. -/
theorem started (hA : Ledger A) (h : Booked A share mode (m, e)) (hm : m'.mode = m.mode) (hp : m'.Proper)
    (hs : m.share = {}) (hs' : m'.share = { interface := some name }) (he : Env.Did (.setRunning name true) e e') :
    Booked A share mode (m', e') where
  label := hm.trans h.label
  proper := hp
  accounts hf := by
    obtain ⟨hfair, hholdings⟩ := he hf
    have hnone : (Function.update share mode m.share mode).interface = none := by
      rw [Function.update_self, hs]
    have hstarted := hA.started (h.accounts hfair) hnone name
    rw [Function.update_idem, Function.update_self, hs] at hstarted
    rw [hholdings, hs']
    exact hstarted

/-- A mode's interface is stopped, and the mode does not count as running any more. -/
theorem dropped (hA : Ledger A) (h : Booked A share mode (m, e)) (hr : m.status.isRunning = true)
    (hname : m.carrierName? = some name) (he : Env.Did (.setRunning name false) e e') :
    Booked A share mode ({ m with status := .disconnected }, e') where
  label := h.label
  proper := ⟨h.proper.session, h.proper.server⟩
  accounts hf := by
    obtain ⟨hfair, hholdings⟩ := he hf
    have hhalted := hA.halted (h.accounts hfair) name
    have hdown : (e.holdings.setRunning name false).running name = false := by simp [Holdings.setRunning]
    have hstopped := hA.stopped hhalted (ModeState.interface_of_running share hr hname) hdown
    rw [Function.update_idem, Function.update_self] at hstopped
    rw [hholdings]
    exact hstopped

end Booked

theorem booked_deed (hA : Ledger A) {x y : ModeState × Env Watched} (h : Booked A share mode x)
    (hr : x.1.status.isRunning = true) (hd : Deed Watched.platform x y) : Booked A share mode y := by
  cases hd with
  | errands hn he =>
    exact h.undisturbed (ModeState.mode_of_fixed hn.fixed) (h.proper.sameHoldings hn)
      (ModeState.share_of_sameHoldings hn hr)
      (Env.undisturbed_errands he)
  | opened hnormal hc hx =>
    exact h.opened hA hnormal hc (Env.did_of_ok ((Network.does_openSession _).behind Method.openSession) hx)
  | closed hc => exact h.closed hA hc (Link.did_hangUp _ _)
  | @started m e e' name answer hname hx =>
    have hdoes := (Network.does_start name).behind Method.start
    cases answer with
    | error err => exact h.undisturbed rfl h.proper rfl (Env.undisturbed_of_error hdoes hx)
    | ok u => exact h.restarted hA hr hname (Env.did_of_ok hdoes hx)
  | @halted m e e' name answer hname hx =>
    have hdoes := (Network.does_stop name).behind Method.stop
    cases answer with
    | error err => exact h.undisturbed rfl h.proper rfl (Env.undisturbed_of_error hdoes hx)
    | ok u => exact h.halted hA (Env.did_of_ok hdoes hx)
  | served hap hname hx =>
    exact h.served hA hap hname (Env.did_of_ok ((Network.does_startServer _).behind Method.startServer) hx)

theorem booked_deeds (hA : Ledger A) {x y : ModeState × Env Watched} (h : Booked A share mode x)
    (hr : x.1.status.isRunning = true) (hd : Deeds Watched.platform x y) : Booked A share mode y := by
  induction hd with
  | refl => exact h
  | tail hd hlast ih => exact booked_deed hA ih (Deeds.isRunning hd hr) hlast

/-- A mode that answers an event does so by deeds if it is running, and else does nothing. -/
theorem booked_answer (hA : Ledger A) {m : ModeState} {e : Env Watched} (retry : Nat) (event : Event)
    (h : Booked A share mode (m, e)) (hm : m.Ended) (hn : m.status ≠ .disconnected) :
    Booked A share mode (Dispatch.answer Watched.platform retry event m e) ∧
      (Dispatch.answer Watched.platform retry event m e).1.Ended := by
  cases hr : m.status.isRunning with
  | true =>
    have hdeeds : Deeds Watched.platform (m, e) (Dispatch.answer Watched.platform retry event m e) :=
      Dispatch.deeds_answer retry event hr
    exact ⟨booked_deeds hA h hr hdeeds, ModeState.ended_of_running (hdeeds.isRunning hr)⟩
  | false =>
    obtain ⟨hnone, hserver⟩ := hm hr
    have hs : m.status = .disconnecting := Status.eq_disconnecting hr hn
    have hfading := Dispatch.answer_ending (P := Watched.platform) (e := e) retry event hs hnone
    generalize Dispatch.answer Watched.platform retry event m e = x at hfading ⊢
    obtain ⟨m', e'⟩ := x
    obtain ⟨hf, rfl⟩ : Dispatch.Fading event m m' ∧ e' = e := hfading
    have hended : m'.Ended := fun _ => ⟨hf.client, hf.server.trans hserver⟩
    have hend : m'.status.isRunning = false := by
      rcases hf.status with hs | ⟨hs, -⟩ <;> rw [hs] <;> rfl
    exact ⟨h.ended hm hr (ModeState.mode_of_fixed hf.fixed) hended hend (.refl _), hended⟩

/-! ## Starts and stops -/

namespace Link

theorem effect_bringUp {name : String} {setup : InterfaceSetup} {e e' : Env Watched}
    {answer : Except PlatformError Unit} (h : bringUp Watched.platform name setup e = (answer, e')) :
    (∀ err, answer = .error err → Env.Undisturbed e e') ∧
      (answer = .ok () → Env.Did (.setRunning name true) e e') := by
  have hconfigured : Env.Undisturbed e (e.perform (Watched.platform.configure name setup)).2 :=
    Env.undisturbed_of_quiet ((Network.quiet_configure name setup).behind Method.configure) rfl
  have hdoes := (Network.does_start name).behind Method.start
  unfold bringUp at h
  split at h <;> rename_i hx <;> rw [hx] at hconfigured
  · cases h
    exact ⟨fun _ _ => hconfigured, nofun⟩
  · refine ⟨?_, ?_⟩
    · rintro err rfl
      exact hconfigured.trans (Env.undisturbed_of_error hdoes h)
    · rintro rfl
      exact hconfigured.did (Env.did_of_ok hdoes h)

theorem undisturbed_start {kind : InterfaceKind} {p : Parameters} {m m' : ModeState} {e e' : Env Watched}
    {err : Error} (h : start Watched.platform kind p m e = (.error err, m', e')) : Env.Undisturbed e e' := by
  unfold start at h
  split at h
  · cases h
    exact .refl _
  · split at h
    · cases h
      exact .refl _
    · split at h <;> rename_i hx
      · cases h
        exact ((effect_bringUp hx).1 _ rfl).trans (Env.undisturbed_signal _ _ _)
      · cases h

theorem did_start {kind : InterfaceKind} {p : Parameters} {m m' : ModeState} {e e' : Env Watched}
    (h : start Watched.platform kind p m e = (.ok (), m', e')) :
    ∃ name, m' = { m with carrier := some ⟨name, kind⟩ } ∧ Env.Did (.setRunning name true) e e' := by
  unfold start at h
  split at h
  · cases h
  · rename_i i _
    split at h
    · cases h
    · split at h <;> rename_i hx
      · cases h
      · cases h
        exact ⟨i.name, rfl, (effect_bringUp hx).2 rfl⟩

theorem undisturbed_isDown (name : String) (e : Env Watched) :
    Env.Undisturbed e (isDown Watched.platform name e).2 := by
  have hasked : Env.Undisturbed e (e.perform (Watched.platform.status name)).2 :=
    Env.undisturbed_of_quiet ((Network.quiet_status name).behind Method.status) rfl
  unfold isDown
  split <;> rename_i hx <;> rw [hx] at hasked <;> exact hasked

end Link

theorem booked_tearDown (hA : Ledger A) {m : ModeState} {e : Env Watched} {carrier : Carrier}
    (hc : m.carrier = some carrier) (h : Booked A share mode ({ m with status := .disconnected }, e)) :
    Booked A share mode (Link.tearDown Watched.platform carrier m e) := by
  have hname := ModeState.carrierName?_of_carrier hc
  have hlights (e₂ : Env Watched) (x y : Signal) : Env.Undisturbed e₂
      (((Link.isDown Watched.platform carrier.name e₂).2.signal x false).signal y false) :=
    (Link.undisturbed_isDown carrier.name e₂).trans
      ((Env.undisturbed_signal _ x false).trans (Env.undisturbed_signal _ y false))
  have hgiven : ∃ e₂,
      Booked A share mode ({ m with status := .disconnected, serverRunning := false, client := none }, e₂) ∧
      Env.Undisturbed e₂ (Link.tearDown Watched.platform carrier m e).2 := by
    have hserver : Booked A share mode ({ m with status := .disconnected, serverRunning := false },
        if m.serverRunning then (e.perform (Watched.platform.stopServer carrier.name)).2 else e) := by
      split
      · rename_i hs
        exact h.unserved hA hs hname (Env.did_stopServer rfl)
      · rename_i hs
        exact eq_false_of_ne_true hs ▸ h
    unfold Link.tearDown
    generalize (if m.serverRunning then (e.perform (Watched.platform.stopServer carrier.name)).2 else e) = e₁
      at hserver ⊢
    cases hm : m.client with
    | none =>
      rw [hm] at hserver
      exact ⟨e₁, hserver, hlights e₁ _ _⟩
    | some c => exact ⟨_, hserver.closed hA hm (Link.did_surrender c.session e₁), hlights _ _ _⟩
  obtain ⟨e₂, hbooked, he⟩ := hgiven
  obtain ⟨down, hdown⟩ := Link.tearDown_fst Watched.platform carrier m e
  generalize Link.tearDown Watched.platform carrier m e = x at he hdown ⊢
  obtain ⟨m', e'⟩ := x
  obtain rfl : m' = _ := hdown
  exact hbooked.ended (fun _ => ⟨rfl, rfl⟩) rfl rfl (fun _ => ⟨rfl, rfl⟩) (by cases down <;> rfl) he

/-- A stop that fails leaves the mode running, and one that succeeds leaves it with nothing. -/
theorem booked_stop (hA : Ledger A) {m : ModeState} {e : Env Watched}
    (h : Booked A share mode (m, e)) (hr : m.status.isRunning = true) (hc : m.Carried) :
    Booked A share mode (Link.stop Watched.platform m e).2 ∧ (Link.stop Watched.platform m e).2.1.Ended := by
  obtain ⟨carrier, hcarrier⟩ := Option.isSome_iff_exists.mp (hc (Status.ne_of_isRunning hr))
  have hname := ModeState.carrierName?_of_carrier hcarrier
  generalize hx : Link.stop Watched.platform m e = x
  obtain ⟨result, m', e'⟩ := x
  cases result with
  | error err =>
    obtain ⟨c, hc', rfl, rfl⟩ := Link.stop_error _ hx
    obtain rfl : carrier = c := Option.some.inj (hcarrier.symm.trans hc')
    have hhalted := booked_deed hA h hr (.halted hname rfl)
    exact ⟨hhalted.undisturbed rfl hhalted.proper rfl (Env.undisturbed_signal _ _ _), ModeState.ended_of_running hr⟩
  | ok u =>
    have hcarried : m.carrier ≠ none := by
      rw [hcarrier]
      nofun
    obtain ⟨hclient, hserver, -⟩ := (Link.stop_ok_fst _ hx).resolve_left fun h => hcarried h.1
    obtain ⟨c, answer, e₁, hc', hy, hstopped, ht⟩ := (Link.stop_ok _ hx).resolve_left fun h => hcarried h.1
    obtain rfl : carrier = c := Option.some.inj (hcarrier.symm.trans hc')
    have hdropped := h.dropped hA hr hname (Env.did_stop hy hstopped)
    exact ⟨ht ▸ booked_tearDown hA hcarrier hdropped, fun _ => ⟨hclient, hserver⟩⟩

theorem Booked.refresh {m : ModeState} {e : Env Watched} (h : Booked A share mode (m, e)) :
    Booked A share mode (m.refresh.2, e) := by
  rw [ModeState.refresh_snd]
  exact h.undisturbed rfl ⟨h.proper.session, h.proper.server⟩ rfl (.refl _)

end

/-! ## Turns -/

/-- The control plane of a watched board. -/
def Simulation.Watched.plane {τ : Type} (policy : Policy) (store : Store τ) (memory : Roster.Memory)
    (valid : policy.validate = some (.ok ())) : ControlPlane Watched τ :=
  { policy, platform := Watched.platform, store, memory, valid }

namespace ControlPlane

variable {τ : Type} {policy : Policy} {store : Store τ} {memory : Roster.Memory}
  {valid : policy.validate = some (.ok ())}

theorem Turn.booked {cap : Bool} {A : (Mode → Share) → Holdings → Prop} (hA : Ledger A) {share : Mode → Share}
    {mode : Mode} {x y : ModeState × Env Watched} (h : (Watched.plane policy store memory valid).Turn cap x y)
    (hx : Booked A share mode x) (he : x.1.Ended) (hc : x.1.Carried) : Booked A share mode y ∧ y.1.Ended := by
  cases h with
  | listening m e b => exact ⟨hx.undisturbed rfl ⟨hx.proper.session, hx.proper.server⟩ rfl (.refl _), he⟩
  | answered name event ha =>
    obtain ⟨hanswer, hended⟩ := booked_answer hA policy.retryNanos event hx he (ModeState.accepts_iff.mp ha).1
    exact ⟨hanswer.refresh, hended.refresh⟩
  | gaveBack name ha hclient => exact ⟨hx.closed hA hclient (Link.did_surrender _ _), fun hend => ⟨rfl, (he hend).2⟩⟩
  | @notStarted m m' e e' kind p err hd hs =>
    have hend : m.status.isRunning = false := by
      rw [hd]
      rfl
    obtain rfl : m' = m.cleared := Link.start_error _ hs
    have hcleared : m.cleared.Ended := fun _ => ⟨rfl, rfl⟩
    exact ⟨hx.ended he hend rfl hcleared hend (Link.undisturbed_start hs), hcleared⟩
  | @started m m' e e' kind p hd hk hs =>
    have hend : m.status.isRunning = false := by
      rw [hd]
      rfl
    obtain ⟨name, rfl, hdid⟩ := Link.did_start hs
    exact ⟨Booked.refresh (hx.started hA rfl ⟨fun _ => rfl, fun _ => rfl⟩ (he.share hend) rfl hdid),
      (ModeState.ended_of_running rfl).refresh⟩
  | stopped hr =>
    obtain ⟨hstop, hended⟩ := booked_stop hA hx hr hc
    exact ⟨hstop.refresh, hended.refresh⟩

/-! ## Runs -/

theorem Asked.undisturbed {e e' : Env Watched} (h : Asked Watched.platform e e') : Env.Undisturbed e e' := by
  cases h with
  | signal x on => exact Env.undisturbed_signal e x on
  | interfaces =>
    exact Env.undisturbed_of_quiet ((Simulation.quiet_of_eq fun _ => rfl).behind Method.interfaces) rfl
  | subscribe name => exact Env.undisturbed_of_quiet ((Network.quiet_register _ name).behind Method.subscribe) rfl
  | unsubscribe name => exact Env.undisturbed_of_quiet ((Network.quiet_unregister name).behind Method.unsubscribe) rfl
  | status name => exact Env.undisturbed_of_quiet ((Network.quiet_status name).behind Method.status) rfl
  | netstat name => exact Env.undisturbed_of_quiet ((Network.quiet_netstat name).behind Method.netstat) rfl
  | announceStop name =>
    exact Env.undisturbed_of_quiet ((Network.quiet_announceStop name).behind Method.announceStop) rfl

/-- What each mode accounts for; before the modes are set up, nothing. -/
def shares : Option Modes → Mode → Share
  | some r, mode => (r.get mode).share
  | none, _ => {}

theorem accounts_idle : Accounts (shares none) .idle where
  session _ := ⟨fun h => (nomatch h), fun h => (nomatch h)⟩
  serving _ := ⟨fun h => (nomatch h), fun h => (nomatch h)⟩
  running _ h := nomatch h

theorem shares_set (r : Modes) (mode : Mode) (m : ModeState) :
    shares (some (r.set mode m)) = Function.update (shares (some r)) mode m.share := by
  funext mode'
  simp only [shares, Modes.get_set, Function.update_apply, eq_comm (a := mode')]
  split <;> rfl

theorem shares_ofInterfaces? {interfaces : List Interface} {r : Modes}
    (h : Modes.ofInterfaces? interfaces = some r) : shares (some r) = shares none := by
  funext mode
  obtain ⟨_, _, hm⟩ := get_ofInterfaces? h mode
  simp only [shares, hm]
  rfl

/-- The modes are sound, and what they account for goes with what the board holds, if all was fair. -/
structure Reconciled (A : (Mode → Share) → Holdings → Prop) (v : Option Modes × Env Watched) : Prop where
  sound : ∀ r, v.1 = some r → ∀ mode, (r.get mode).Sound
  accounts : v.2.fair = true → A (shares v.1) v.2.holdings

namespace Reconciled

variable {A : (Mode → Share) → Holdings → Prop}

theorem undisturbed {r? : Option Modes} {e e' : Env Watched} (h : Reconciled A (r?, e))
    (he : Env.Undisturbed e e') : Reconciled A (r?, e') where
  sound := h.sound
  accounts hf := by
    rw [he.1]
    exact h.accounts (he.2 hf)

/-- A mode takes a turn, and the other modes' shares stay. -/
theorem turn (hA : Ledger A) {cap : Bool} {r : Modes} {e : Env Watched} {mode : Mode} {x : ModeState × Env Watched}
    (h : Reconciled A (some r, e)) (hl : r.Labelled)
    (ht : (Watched.plane policy store memory valid).Turn cap (r.get mode, e) x) :
    Reconciled A (some (r.set mode x.1), x.2) := by
  have hsound := h.sound r rfl
  have hbooked : Booked A (shares (some r)) mode (r.get mode, e) :=
    { label := hl mode
      proper := (hsound mode).proper
      accounts := fun hf => by
        rw [show (r.get mode).share = shares (some r) mode from rfl, Function.update_eq_self]
        exact h.accounts hf }
  obtain ⟨hx, hended⟩ := ht.booked hA hbooked (hsound mode).ended (hsound mode).carried
  refine ⟨?_, fun hf => ?_⟩
  · rintro _ ⟨⟩ mode'
    rw [Modes.get_set]
    split
    · exact ⟨hx.proper, hended, ht.carried (hsound mode).carried⟩
    · exact hsound mode'
  · rw [shares_set]
    exact hx.accounts hf

theorem fresh {interfaces : List Interface} {r : Modes} {e : Env Watched} (h : Reconciled A (none, e))
    (hr : Modes.ofInterfaces? interfaces = some r) : Reconciled A (some r, e) := by
  refine ⟨?_, fun hf => ?_⟩
  · rintro _ ⟨⟩ mode
    obtain ⟨_, _, hm⟩ := get_ofInterfaces? hr mode
    rw [hm]
    exact ⟨⟨fun _ => rfl, fun _ => rfl⟩, fun _ => ⟨rfl, rfl⟩, absurd rfl⟩
  · rw [shares_ofInterfaces? hr]
    exact h.accounts hf

end Reconciled

/-- The modes are sound, and the board holds what they account for. -/
abbrev Balanced : Option Modes × Env Watched → Prop := Reconciled Accounts

/-- Moves of runs in which the modes are not dissolved and only the control plane uses the board: what
    happens outside leaves what is held, and makes nothing fair that was not. -/
def Alone (M : ControlPlane Watched τ) (s : State Watched τ) : Move Watched τ → Prop
  | .dissolve => (M.dissolve s).1 ≠ .ok ()
  | .outside platform _ _ => Env.Undisturbed s.env { s.env with platform := platform s.env.platform }
  | _ => True

theorem invariant_reconciled {A : (Mode → Share) → Holdings → Prop} (hA : Ledger A) :
    (Watched.plane policy store memory valid).Invariant (Watched.plane policy store memory valid).Alone
      (Reconciled A) where
  change _ hc hl hv := by
    cases hc with
    | turn mode ht => exact hv.turn hA (hl _ rfl) ht
    | asked ha => exact hv.undisturbed ha.undisturbed
    | fresh hr => exact hv.fresh hr
  outside hok hv := hv.undisturbed hok
  gone hok ha _ := absurd ha hok

theorem invariant_balanced :
    (Watched.plane policy store memory valid).Invariant (Watched.plane policy store memory valid).Alone Balanced :=
  invariant_reconciled Accounts.ledger

/-- Over every run on a simulated board that only the control plane uses, if all was fair: the open
    sessions are exactly the one that the normal mode holds, an interface has a DHCP server exactly if
    it is the access point's and the access point counts its server as running, and every interface
    that runs is that of a mode that is connecting or connected. -/
theorem reach_accounts {s₀ s : State Watched τ} {r : Modes} (hn : s₀.roster.modes = none)
    (hi : s₀.env.holdings = .idle)
    (h : (Watched.plane policy store memory valid).Reach (Watched.plane policy store memory valid).Alone s₀ s)
    (hf : s.env.fair = true) (hr : s.roster.modes = some r) :
    (∀ id, s.env.platform.board.inner.sessions.contains id = true ↔ r.normal.session? = some id) ∧
    (∀ name, s.env.platform.board.inner.servers.contains name = true ↔
      r.accessPoint.carrierName? = some name ∧ r.accessPoint.serverRunning = true) ∧
    ∀ name d, s.env.platform.board.inner.devices.find? name = some d → d.running = true →
      ∃ mode, (r.get mode).carrierName? = some name ∧
        ((r.get mode).status = .connecting ∨ (r.get mode).status = .connected) := by
  have hl : ∀ r, s₀.roster.modes = some r → r.Labelled := by simp [hn]
  have h₀ : Balanced s₀.view := by
    refine ⟨?_, fun _ => ?_⟩
    · simp [State.view, hn]
    · simp only [State.view, hn, hi]
      exact accounts_idle
  have ha : Accounts (shares (some r)) s.env.holdings := hr ▸ (h.holds invariant_balanced hl h₀).1.accounts hf
  refine ⟨ha.session, fun name => (ha.serving name).trans ?_, fun name d hd hrun => ?_⟩
  · exact ModeState.server_eq_some_iff
  · have hrunning : s.env.holdings.running name = true := by
      simp [Env.holdings, Network.holdings, hd, hrun]
    obtain ⟨mode, hm⟩ := ha.running name hrunning
    obtain ⟨hname, hstatus⟩ := ModeState.interface_eq_some_iff.mp hm
    exact ⟨mode, hname, Status.isRunning_iff.mp hstatus⟩

end ControlPlane

namespace Camera

open Simulation ControlPlane

/-- A watched camera. -/
def watched : ControlPlane Watched Shelf := Watched.plane {} Shelf.operations Simulation.memory plane.valid

def start : State Watched Shelf :=
  watched.initial { platform := { board := Board.ofInterfaces Network.twoPortBoard } } { inner := {} }

/-- An event on the board, which the control plane answers. -/
def happen (name : String) (event : Event) : List (Move Watched Shelf) :=
  [.outside (fun w => { w with board.inner := (w.board.inner.occur name event).2 }) id 0, .event name event]

/-- With both modes on the radio, the normal one with its lease and the access point with its server. -/
theorem share_accounts :
    let s := watched.run (share ++ happen "wlan0" .apStarted) start
    let n := s.env.platform.board.inner
    n.sessions.contains ⟨1⟩ = true ∧ n.servers.contains "wlan0" = true ∧
    ∃ r, s.roster.modes = some r ∧
      (∀ id, n.sessions.contains id = true ↔ r.normal.session? = some id) ∧
      (∀ name, n.servers.contains name = true ↔
        r.accessPoint.carrierName? = some name ∧ r.accessPoint.serverRunning = true) ∧
      ∀ name d, n.devices.find? name = some d → d.running = true →
        ∃ mode, (r.get mode).carrierName? = some name ∧
          ((r.get mode).status = .connecting ∨ (r.get mode).status = .connected) := by
  intro s n
  have hsome : s.roster.modes.isSome = true := by decide +kernel
  obtain ⟨r, hr⟩ := Option.isSome_iff_exists.mp hsome
  have hidle : start.env.holdings = .idle := Network.holdings_ofInterfaces Network.twoPortBoard
  have hhappen {e : Env Watched} : Env.Undisturbed e
      { e with platform := { e.platform with board.inner := (e.platform.board.inner.occur "wlan0" .apStarted).2 } } :=
    ⟨Network.holdings_occur _ _ _, id⟩
  have hrun : watched.Reach watched.Alone start s :=
    reach_run ⟨trivial, trivial, trivial, trivial, trivial, trivial, hhappen, trivial, trivial⟩
  refine ⟨by decide +kernel, by decide +kernel, r, hr, ?_⟩
  exact reach_accounts rfl hidle hrun (by decide +kernel) hr

end Camera

end Connectivity
