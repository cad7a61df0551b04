/-
  Connectivity.Proofs.Listening — whose events a control plane hears.
  - `Platform.Leaves`: a view of the platform's state that none of its operations changes.
    `step_leaves`: then no move of the control plane changes it, and the modes keep their interfaces.
  - `deaf`: a control plane that can neither ask for events nor give them up. It makes the same moves
    but for `setUp` and `dissolve` (`step_deaf`), so no other move changes who listens.
  - `Plain`: a view of the network that only subscriptions change, as that of who listens.
  - `Attentive`: the control plane hears the interfaces of its modes and no others, on a watched
    board. `Attentive.step`: every move keeps it. `Attentive.dissolve`: after a dissolution it hears
    none.
-/

import Connectivity.Proofs.Drift
import Connectivity.Proofs.Holdings
import Connectivity.Proofs.Stores

namespace Connectivity

open Simulation

/-! ## Views that nothing changes -/

/-- No operation changes a view of the platform's state. -/
structure Platform.Leaves {σ β : Type} (P : Platform σ) (view : σ → β) : Prop where
  interfaces : Quiet view P.interfaces
  configure : ∀ name setup, Quiet view (P.configure name setup)
  start : ∀ name, Quiet view (P.start name)
  announceStop : ∀ name, Quiet view (P.announceStop name)
  stop : ∀ name, Quiet view (P.stop name)
  subscribe : ∀ name, Quiet view (P.subscribe name)
  unsubscribe : ∀ name, Quiet view (P.unsubscribe name)
  status : ∀ name, Quiet view (P.status name)
  netstat : ∀ name, Quiet view (P.netstat name)
  mac : ∀ name, Quiet view (P.mac name)
  address : ∀ name, Quiet view (P.address name)
  setAddress : ∀ name addressing, Quiet view (P.setAddress name addressing)
  setMethod : ∀ name method, Quiet view (P.setMethod name method)
  openSession : ∀ name mac, Quiet view (P.openSession name mac)
  request : ∀ id, Quiet view (P.request id)
  renew : ∀ id mode, Quiet view (P.renew id mode)
  release : ∀ id, Quiet view (P.release id)
  close : ∀ id, Quiet view (P.close id)
  startServer : ∀ name setup, Quiet view (P.startServer name setup)
  stopServer : ∀ name, Quiet view (P.stopServer name)

theorem leaves_perform {σ α β : Type} {view : σ → β} {e e' : Env σ} {a : Action σ α} (ha : Quiet view a)
    {answer : Except PlatformError α} (h : e.perform a = (answer, e')) : view e'.platform = view e.platform := by
  cases h
  exact ha.eq e.platform

/-- To leave a view as it is means to go only to states that look the same in it. -/
theorem Platform.Leaves.within {σ β : Type} {P : Platform σ} {view : σ → β} (hP : P.Leaves view) :
    P.Within (fun x y => view y = view x) where
  refl _ := rfl
  trans h h' := h'.trans h
  interfaces := hP.interfaces.eq
  configure name setup := (hP.configure name setup).eq
  start name := (hP.start name).eq
  announceStop name := (hP.announceStop name).eq
  stop name := (hP.stop name).eq
  subscribe name := (hP.subscribe name).eq
  unsubscribe name := (hP.unsubscribe name).eq
  status name := (hP.status name).eq
  netstat name := (hP.netstat name).eq
  mac name := (hP.mac name).eq
  address name := (hP.address name).eq
  setAddress name addressing := (hP.setAddress name addressing).eq
  setMethod name method := (hP.setMethod name method).eq
  openSession name mac := (hP.openSession name mac).eq
  request id := (hP.request id).eq
  renew id mode := (hP.renew id mode).eq
  release id := (hP.release id).eq
  close id := (hP.close id).eq
  startServer name setup := (hP.startServer name setup).eq
  stopServer name := (hP.stopServer name).eq

namespace ControlPlane

variable {σ τ β : Type} {M : ControlPlane σ τ} {cap : Bool} {view : σ → β}

/-- The modes have the interfaces they had before, if they were there. -/
def SameInterfaces (r₀? r? : Option Modes) : Prop :=
  ∀ r₀, r₀? = some r₀ → ∃ r, r? = some r ∧ r.interfaces = r₀.interfaces

theorem Change.sameInterfaces {r₀? : Option Modes} {v v' : Option Modes × Env σ} (h : M.Change cap v v')
    (hv : SameInterfaces r₀? v.1) : SameInterfaces r₀? v'.1 := by
  intro r₀ hr₀
  obtain ⟨r, hr, hi⟩ := hv r₀ hr₀
  cases h with
  | @turn _ _ x mode =>
    cases hr
    exact ⟨r.set mode x.1, rfl, (Modes.interfaces_set r mode x.1).trans hi⟩
  | asked => exact ⟨r, hr, hi⟩
  | fresh => cases hr

theorem Leads.sameInterfaces {v v' : Option Modes × Env σ} (h : M.Leads cap v v') : SameInterfaces v.1 v'.1 := by
  induction h with
  | refl => exact fun r₀ hr₀ => ⟨r₀, hr₀, rfl⟩
  | tail _ hc ih => exact hc.sameInterfaces ih

/-- Where no operation changes a view of the platform's state, the control plane does not either. -/
theorem step_leaves (hP : M.platform.Leaves view) {s : State σ τ} (hl : ∀ r, s.roster.modes = some r → r.Labelled)
    (hc : ∀ r, s.roster.modes = some r → r.Consistent none) {mv : Move σ τ} (hi : mv.isInner = true) :
    view (M.step mv s).env.platform = view s.env.platform ∧
      SameInterfaces s.roster.modes (M.step mv s).roster.modes :=
  ⟨step_within hP.within hl hc hi, (step_leads hl hi).sameInterfaces⟩

end ControlPlane

/-! ## Control planes that cannot hear -/

/-- A platform whose subscriptions do nothing. -/
def Platform.deaf {σ : Type} (P : Platform σ) : Platform σ :=
  { P with subscribe := fun _ s => (.ok (), s), unsubscribe := fun _ s => (.ok (), s) }

namespace ControlPlane

variable {σ τ : Type}

def deaf (M : ControlPlane σ τ) : ControlPlane σ τ := { M with platform := M.platform.deaf }

/-- Only `setUp` asks for events, and only `setUp` and `dissolve` give them up. -/
theorem step_deaf (M : ControlPlane σ τ) {mv : Move σ τ} (hs : mv ≠ .setUp) (hd : mv ≠ .dissolve) (s : State σ τ) :
    M.deaf.step mv s = M.step mv s := by
  cases mv with
  | setUp => exact absurd rfl hs
  | dissolve => exact absurd rfl hd
  | event name event => cases event <;> rfl
  | _ => rfl

end ControlPlane

/-! ## Listeners -/

namespace Simulation

namespace Network

theorem unscripted_listeners : Unscripted listeners := fun _ _ _ _ _ => rfl

theorem unregister_eq (name : String) (n : Network) :
    (unregister name n).2 = { n with listeners := n.listeners.erase name } := by
  unfold unregister
  split
  · rfl
  · rename_i habsent
    rw [Table.erase_of_absent (by simpa [Table.contains] using habsent)]

theorem find?_unregister (name name' : String) (n : Network) :
    (unregister name n).2.listeners.find? name' = if name = name' then none else n.listeners.find? name' := by
  rw [unregister_eq]
  exact Table.find?_erase _ _ _

theorem does_register (listener : Listener) (name : String) :
    Does Network.listeners (register listener name) (fun _ t => t.insert name listener) :=
  does_onDevice fun d n _ => by
    split <;> rfl

theorem listeners_occur (name : String) (event : Event) (n : Network) :
    (n.occur name event).2.listeners = n.listeners := unscripted_listeners.deliver name event _

/-- A view that only subscriptions change: it is of what a board reports and of who listens. -/
def Plain {β : Type} (view : Network → β) : Prop :=
  ∀ n devices sessions lastSession script servers failures calls heard,
    view { n with devices, sessions, lastSession, script, servers, failures, calls, heard } = view n

section
variable {α β : Type} {view : Network → β}

theorem Plain.unscripted (h : Plain view) : Unscripted view := fun n _ _ _ _ => h n ..

theorem Plain.setDevice (h : Plain view) (name : String) (d : Device) (n : Network) :
    view (n.setDevice name d) = view n := h n ..

theorem Plain.leaves (h : Plain view) : platform.deaf.Leaves view where
  interfaces := quiet_of_eq fun _ => rfl
  configure _ _ := does_begun h.unscripted (does_onDevice fun _ n _ => h.setDevice _ _ n)
  start _ := by
    refine does_begun h.unscripted (does_onDevice fun d n _ => ?_)
    split
    · rfl
    · exact h.setDevice _ _ n
  announceStop name := by
    refine does_begun h.unscripted (does_onDevice fun d n _ => ?_)
    split
    · exact h.unscripted.deliver name .ifDownPre n
    · rfl
  stop _ := by
    refine does_begun h.unscripted (does_onDevice fun d n _ => ?_)
    split
    · exact h.setDevice _ _ n
    · rfl
  subscribe _ := quiet_of_eq fun _ => rfl
  unsubscribe _ := quiet_of_eq fun _ => rfl
  status _ := does_onDevice fun _ _ _ => rfl
  netstat _ := does_onDevice fun _ _ _ => rfl
  mac _ := does_onDevice fun _ _ _ => rfl
  address _ := does_onDevice fun _ _ _ => rfl
  setAddress _ _ := does_begun h.unscripted (does_onDevice fun _ n _ => h.setDevice _ _ n)
  setMethod name method n := by
    have hset : Quiet view (onDevice name fun d n => (.ok (), n.setDevice name { d with method := some method })) :=
      does_onDevice fun _ n _ => h.setDevice _ _ n
    rw [← show view (n.note (.setMethod name method)) = view n from h n ..]
    exact hset _
  openSession _ _ := does_begun h.unscripted (does_onDevice fun _ n _ => h n ..)
  request _ := does_inSession fun name => quiet_of_eq fun n =>
    (h.unscripted.answer.eq (n.note (.request name))).trans (h n ..)
  renew _ mode := does_inSession fun name => quiet_of_eq fun n =>
    (h.unscripted.answer.eq (n.note (.renew name mode))).trans (h n ..)
  release _ := does_inSession fun name => quiet_of_eq (h.unscripted.begin _ _)
  close _ := does_inSession fun _ n => h n ..
  startServer _ _ := does_begun h.unscripted fun n => h n ..
  stopServer name := quiet_of_eq fun n => by
    simp only [platform, Platform.deaf, stopServer]
    split <;> exact h n ..

end

/-- Only subscriptions change who listens. -/
theorem leaves_listeners : platform.deaf.Leaves Network.listeners :=
  Plain.leaves fun _ _ _ _ _ _ _ _ _ => rfl

end Network

/-- What nothing changes is not changed behind faults either. -/
theorem leaves_faultyPlatform {σ β : Type} {P : Platform σ} {view : σ → β} (hP : P.Leaves view) :
    (faultyPlatform P).Leaves fun b => view b.inner where
  interfaces := hP.interfaces.behind _
  configure name setup := (hP.configure name setup).behind _
  start name := (hP.start name).behind _
  announceStop name := (hP.announceStop name).behind _
  stop name := (hP.stop name).behind _
  subscribe name := (hP.subscribe name).behind _
  unsubscribe name := (hP.unsubscribe name).behind _
  status name := (hP.status name).behind _
  netstat name := (hP.netstat name).behind _
  mac name := (hP.mac name).behind _
  address name := (hP.address name).behind _
  setAddress name addressing := (hP.setAddress name addressing).behind _
  setMethod name method := (hP.setMethod name method).behind _
  openSession name mac := (hP.openSession name mac).behind _
  request id := (hP.request id).behind _
  renew id mode := (hP.renew id mode).behind _
  release id := (hP.release id).behind _
  close id := (hP.close id).behind _
  startServer name setup := (hP.startServer name setup).behind _
  stopServer name := (hP.stopServer name).behind _

theorem Faulty.queue_behind {κ ε σ α : Type} [DecidableEq κ] {k k' : κ} (hk : k ≠ k') (run : σ → Except ε α × σ)
    (s : Faulty κ ε σ) : (behind k run s).2.queue k' = s.queue k' := by
  unfold behind
  split <;> simp [queue, hk]

/-- Who listens on a board, and the faults of the operation that gives events up. -/
def Watched.ears (w : Watched) : Table String Listener × List (Fault PlatformError) :=
  (w.board.inner.listeners, w.board.queue .unsubscribe)

theorem Quiet.ears {α : Type} {a : Action Network α} (ha : Quiet Network.listeners a) {k : Method}
    (hk : k ≠ .unsubscribe) (isFair : Board → Except PlatformError α → Bool) :
    Quiet Watched.ears (watch isFair (Faulty.behind k a)) := by
  have hinner : Quiet (fun b : Board => b.inner.listeners) (Faulty.behind k a) := ha.behind k
  exact quiet_of_eq fun w => Prod.ext (hinner.eq w.board) (Faulty.queue_behind hk a w.board)

theorem Watched.leaves_ears : Watched.platform.deaf.Leaves Watched.ears where
  interfaces := Network.leaves_listeners.interfaces.ears (by decide) _
  configure name setup := (Network.leaves_listeners.configure name setup).ears (by decide) _
  start name := (Network.leaves_listeners.start name).ears (by decide) _
  announceStop name := (Network.leaves_listeners.announceStop name).ears (by decide) _
  stop name := (Network.leaves_listeners.stop name).ears (by decide) _
  subscribe _ := quiet_of_eq fun _ => rfl
  unsubscribe _ := quiet_of_eq fun _ => rfl
  status name := (Network.leaves_listeners.status name).ears (by decide) _
  netstat name := (Network.leaves_listeners.netstat name).ears (by decide) _
  mac name := (Network.leaves_listeners.mac name).ears (by decide) _
  address name := (Network.leaves_listeners.address name).ears (by decide) _
  setAddress name addressing := (Network.leaves_listeners.setAddress name addressing).ears (by decide) _
  setMethod name method := (Network.leaves_listeners.setMethod name method).ears (by decide) _
  openSession name mac := (Network.leaves_listeners.openSession name mac).ears (by decide) _
  request id := (Network.leaves_listeners.request id).ears (by decide) _
  renew id mode := (Network.leaves_listeners.renew id mode).ears (by decide) _
  release id := (Network.leaves_listeners.release id).ears (by decide) _
  close id := (Network.leaves_listeners.close id).ears (by decide) _
  startServer name setup := (Network.leaves_listeners.startServer name setup).ears (by decide) _
  stopServer name := (Network.leaves_listeners.stopServer name).ears (by decide) _

end Simulation

namespace Env

/-- Whether the control plane gets the events of an interface. -/
def Hears (e : Env Watched) (name : String) : Prop :=
  e.platform.board.inner.listeners.find? name = some .controlPlane

/-- The control plane gets events of these interfaces only, and can give them up. -/
structure Attends (names : List String) (e : Env Watched) : Prop where
  known : ∀ name, e.Hears name → name ∈ names
  able : e.platform.board.queue .unsubscribe = []

namespace Attends

variable {names names' : List String} {name : String} {e e' : Env Watched}

theorem mono (h : e.Attends names) (hs : names ⊆ names') : e.Attends names' :=
  ⟨fun name hn => hs (h.known name hn), h.able⟩

theorem of_ears (h : e.Attends names) (he : e'.platform.ears = e.platform.ears) : e'.Attends names where
  known name hn := by
    refine h.known name ?_
    rw [Hears, ← show e'.platform.board.inner.listeners = e.platform.board.inner.listeners from congrArg Prod.fst he]
    exact hn
  able := (congrArg Prod.snd he).trans h.able

/-- An unsubscription ends what is heard of an interface. -/
theorem unsubscribe (h : e.Attends (name :: names)) :
    (e.perform (Watched.platform.unsubscribe name)).2.Attends names := by
  have hboard : (e.perform (Watched.platform.unsubscribe name)).2.platform.board =
      { e.platform.board with inner := (Network.unregister name e.platform.board.inner).2 } :=
    congrArg Prod.snd (Faulty.behind_clear h.able (Network.unregister name))
  refine ⟨fun name' hn => ?_, ?_⟩
  · rw [Hears, hboard, Network.find?_unregister] at hn
    split at hn
    · cases hn
    · rename_i hne
      exact (List.mem_cons.mp (h.known name' hn)).resolve_left (Ne.symm hne)
  · rw [hboard]
    exact h.able

theorem unsubscribeAll {τ : Type} {M : ControlPlane Watched τ} (hM : M.platform = Watched.platform)
    (h : e.Attends names) : (M.unsubscribeAll names e).Attends [] := by
  induction names generalizing e with
  | nil => exact h
  | cons name names ih =>
    refine ih ?_
    rw [hM]
    exact h.unsubscribe

theorem subscribe {answer : Except PlatformError Unit} (h : e.Attends names)
    (hx : e.perform (Watched.platform.subscribe name) = (answer, e')) :
    (answer = .ok () → e'.Attends (names ++ [name])) ∧ ∀ err, answer = .error err → e'.Attends names := by
  have hdoes := (Network.does_register .controlPlane name).behind Method.subscribe
  have hqueue : e'.platform.board.queue .unsubscribe = e.platform.board.queue .unsubscribe := by
    cases hx
    exact Faulty.queue_behind (by decide) _ _
  have heffect : Effect (fun _ t => t.insert name .controlPlane) e.platform.board.inner.listeners answer
      e'.platform.board.inner.listeners := by
    cases hx
    exact hdoes e.platform.board
  constructor
  · rintro rfl
    refine ⟨fun name' hn => ?_, hqueue.trans h.able⟩
    rw [Hears, show e'.platform.board.inner.listeners = _ from heffect, Table.find?_insert] at hn
    split at hn
    · rename_i heq
      simp [heq]
    · exact List.mem_append_left _ (h.known name' hn)
  · rintro err rfl
    exact h.of_ears (Prod.ext heffect hqueue)

theorem subscribeAll {τ : Type} {M : ControlPlane Watched τ} (hM : M.platform = Watched.platform)
    {done names : List String} {answer : Except PlatformError Unit} (h : e.Attends done)
    (hx : M.subscribeAll done names e = (answer, e')) :
    (answer = .ok () → e'.Attends (done ++ names)) ∧ ∀ err, answer = .error err → e'.Attends [] := by
  induction names generalizing done e with
  | nil =>
    cases hx
    exact ⟨fun _ => by rwa [List.append_nil], nofun⟩
  | cons name names ih =>
    unfold ControlPlane.subscribeAll at hx
    rw [hM] at hx
    split at hx <;> rename_i hone
    · cases hx
      exact ⟨nofun, fun _ _ => ((h.subscribe hone).2 _ rfl).unsubscribeAll hM⟩
    · have hrest := ih ((h.subscribe hone).1 rfl) hx
      rwa [List.append_assoc, List.singleton_append] at hrest

end Attends

end Env

/-! ## Moves -/

theorem Modes.interfaces_ofInterfaces? {interfaces : List Interface} {r : Modes}
    (h : Modes.ofInterfaces? interfaces = some r) : r.interfaces = interfaces := by
  simp only [Modes.ofInterfaces?] at h
  split at h <;> cases h
  rfl

namespace ControlPlane

/-- The names of the interfaces that the modes were set up with; before that, of none. -/
def reported : Option Modes → List String
  | some r => r.interfaces.map (·.name)
  | none => []

/-- The control plane hears interfaces that its modes were set up with and no others. -/
def Attentive {τ : Type} (s : State Watched τ) : Prop := s.env.Attends (reported s.roster.modes)

namespace Attentive

variable {τ : Type} {M : ControlPlane Watched τ} {s : State Watched τ}

theorem setUp (hM : M.platform = Watched.platform) (h : Attentive s) : Attentive (M.setUp s).2 := by
  have hasked : (s.env.perform M.platform.interfaces).2.Attends (reported s.roster.modes) := by
    rw [hM]
    exact h.of_ears (Watched.leaves_ears.interfaces.eq s.env.platform)
  unfold ControlPlane.setUp
  split <;> rename_i hx <;> rw [hx] at hasked
  · exact hasked
  · rename_i interfaces e
    split <;> rename_i hs
    · rw [Roster.setUp_error hs]
      exact hasked
    · rw [Roster.setUp_false hs]
      exact hasked
    · obtain ⟨hn, r, hi, hr⟩ := Roster.setUp_true hs
      rw [hn] at hasked
      split <;> rename_i hsubscribed
      · have hall := (hasked.subscribeAll hM hsubscribed).1 rfl
        rw [← Modes.interfaces_ofInterfaces? hi] at hall
        rw [Attentive, hr]
        exact hall
      · have hnone := (hasked.subscribeAll hM hsubscribed).2 _ rfl
        split <;> exact hnone.mono (List.nil_subset _)

/-- Whatever is heard before a dissolution, nothing is heard after it. -/
theorem dissolve (hM : M.platform = Watched.platform) (h : Attentive s) (hd : (M.dissolve s).1 = .ok ()) :
    (M.dissolve s).2.env.Attends [] := by
  unfold ControlPlane.dissolve at hd ⊢
  split at hd <;> rename_i hx
  · cases hd
  · rw [Attentive, (Roster.dissolve_ok hx).1] at h
    exact h.unsubscribeAll hM

/-- Every move through the control plane but a dissolution keeps to these interfaces. -/
theorem step (hM : M.platform = Watched.platform) (h : Attentive s)
    (hl : ∀ r, s.roster.modes = some r → r.Labelled) (hc : ∀ r, s.roster.modes = some r → r.Consistent none)
    {mv : Move Watched τ} (hi : mv.isInner = true) : Attentive (M.step mv s) := by
  by_cases hs : mv = .setUp
  · subst hs
    exact h.setUp hM
  · have hd : mv ≠ .dissolve := by
      rintro rfl
      cases hi
    have hP : M.deaf.platform.Leaves Watched.ears := by
      rw [deaf, hM]
      exact Watched.leaves_ears
    obtain ⟨hears, hsame⟩ := step_leaves hP hl hc hi
    rw [step_deaf M hs hd] at hears hsame
    refine Env.Attends.mono (h.of_ears hears) ?_
    cases hr : s.roster.modes with
    | none => exact List.nil_subset _
    | some r =>
      obtain ⟨r', hr', hi'⟩ := hsame r hr
      rw [hr', reported, reported, hi']
      exact List.Subset.refl _

end Attentive

end ControlPlane

end Connectivity
