/-
  Connectivity.Proofs.Holdings — what the simulated network holds for its user: open DHCP sessions,
  DHCP servers and running interfaces.
  - `Does`: an operation has its effect if it answers and none if it fails. `does_start`, …: one
    lemma an operation; the other operations do nothing to what is held (`Quiet`).
  - `Watched`: a board that also knows whether all went fairly so far. It is unfair to call an
    interface stopped that is running, or to make the end of a session or a server fail. A watched
    board answers as the board does.
-/

import Mathlib.Logic.Function.Basic
import Connectivity.Simulation.Bench

namespace Connectivity

namespace Simulation

/-- What a platform holds for its user. -/
structure Holdings where
  session : SessionId → Bool
  serving : String → Bool
  running : String → Bool

namespace Holdings

def idle : Holdings := ⟨fun _ => false, fun _ => false, fun _ => false⟩

def setSession (id : SessionId) (on : Bool) (h : Holdings) : Holdings :=
  { h with session := Function.update h.session id on }

def setServing (name : String) (on : Bool) (h : Holdings) : Holdings :=
  { h with serving := Function.update h.serving name on }

def setRunning (name : String) (on : Bool) (h : Holdings) : Holdings :=
  { h with running := Function.update h.running name on }

variable (h : Holdings)

@[simp] theorem setSession_of_eq {id : SessionId} {on : Bool} (hs : h.session id = on) :
    h.setSession id on = h := by
  simp [setSession, ← hs]

@[simp] theorem setServing_of_eq {name : String} {on : Bool} (hs : h.serving name = on) :
    h.setServing name on = h := by
  simp [setServing, ← hs]

@[simp] theorem setRunning_of_eq {name : String} {on : Bool} (hs : h.running name = on) :
    h.setRunning name on = h := by
  simp [setRunning, ← hs]

end Holdings

/-! ## Effects -/

section
variable {σ α β : Type}

/-- An answer has an effect on what is seen of a state, a failure has none. -/
def Effect (f : α → β → β) (h : β) (answer : Except PlatformError α) (h' : β) : Prop :=
  match answer with
  | .ok a => h' = f a h
  | .error _ => h' = h

/-- What an operation does to a view of the state. -/
def Does (view : σ → β) (a : Action σ α) (f : α → β → β) : Prop :=
  ∀ s, Effect f (view s) (a s).1 (view (a s).2)

/-- An operation that leaves a view as it is. -/
abbrev Quiet (view : σ → β) (a : Action σ α) : Prop := Does view a (fun _ h => h)

theorem quiet_of_eq {view : σ → β} {a : Action σ α} (h : ∀ s, view (a s).2 = view s) : Quiet view a := by
  intro s
  cases hx : (a s).1 <;> exact h s

theorem Quiet.eq {view : σ → β} {a : Action σ α} (h : Quiet view a) (s : σ) : view (a s).2 = view s := by
  have heffect := h s
  cases hx : (a s).1 <;> rw [hx] at heffect <;> exact heffect

/-- Faults are failures without an effect. -/
theorem Does.behind {κ : Type} [DecidableEq κ] {view : σ → β} {a : Action σ α} {f : α → β → β}
    (h : Does view a f) (k : κ) :
    Does (fun s : Faulty κ PlatformError σ => view s.inner) (Faulty.behind k a) f := by
  intro s
  unfold Faulty.behind
  split
  · rfl
  · exact h s.inner
  · exact h s.inner

end

/-! ## The network -/

namespace Network

def holdings (n : Network) : Holdings where
  session := n.sessions.contains
  serving := n.servers.contains
  running name := (n.devices.find? name).any (·.running)

theorem holdings_setDevice (name : String) (d : Device) (n : Network) :
    (n.setDevice name d).holdings = n.holdings.setRunning name d.running := by
  have hrunning : (n.setDevice name d).holdings.running = Function.update n.holdings.running name d.running := by
    funext name'
    simp only [holdings, setDevice, Table.find?_insert, Function.update_apply, eq_comm (a := name')]
    split <;> rfl
  exact congrArg (fun running => { n.holdings with running }) hrunning

/-- An interface that goes on running or standing still. -/
theorem holdings_setDevice_of_eq {name : String} {d d' : Device} {n : Network}
    (hd : n.devices.find? name = some d) (hr : d'.running = d.running) :
    (n.setDevice name d').holdings = n.holdings := by
  rw [holdings_setDevice, Holdings.setRunning_of_eq]
  simp [holdings, hd, hr]

section
variable {α β : Type} {view : Network → β} {f : α → β → β}

/-- A view that the scripts and the records of the network are no part of. -/
def Unscripted (view : Network → β) : Prop :=
  ∀ n calls failures script heard, view { n with calls, failures, script, heard } = view n

theorem Unscripted.begin (h : Unscripted view) (call : Call) (point : FailPoint) (n : Network) :
    view (n.begin call point).2 = view n := by
  simp only [Network.begin]
  split <;> exact h n ..

theorem Unscripted.deliver (h : Unscripted view) (name : String) (event : Event) (n : Network) :
    view (n.deliver name event).2 = view n := by
  unfold Network.deliver
  split
  · rfl
  · exact h n ..
  · rfl

theorem Unscripted.answer (h : Unscripted view) : Quiet view answer := by
  refine quiet_of_eq fun n => ?_
  unfold Network.answer
  split
  · exact h n ..
  · rfl

theorem does_begun (h : Unscripted view) {call : Call} {point : FailPoint} {rest : Action Network α}
    (hrest : Does view rest f) : Does view (fun n => andThen (n.begin call point) rest) f := by
  intro n
  have hb := h.begin call point n
  simp only [andThen]
  split <;> rename_i hx <;> rw [hx] at hb
  · exact hb
  · rw [← hb]
    exact hrest _

theorem does_onDevice {name : String} {run : Device → Action Network α}
    (hrun : ∀ d n, n.devices.find? name = some d → Effect f (view n) (run d n).1 (view (run d n).2)) :
    Does view (onDevice name run) f := by
  intro n
  unfold onDevice
  split
  · rename_i d hd
    exact hrun d n hd
  · rfl

theorem does_inSession {id : SessionId} {run : String → Action Network α} (hrun : ∀ name, Does view (run name) f) :
    Does view (inSession id run) f := by
  intro n
  unfold inSession
  split
  · exact hrun _ n
  · rfl

end

theorem unscripted_holdings : Unscripted holdings := fun _ _ _ _ _ => rfl

/-- An event from outside changes nothing of what is held. -/
theorem holdings_occur (name : String) (event : Event) (n : Network) :
    (n.occur name event).2.holdings = n.holdings := by
  have hafter (d : Device) : (Device.after d event).running = d.running := by
    cases event <;> rfl
  unfold occur
  rw [unscripted_holdings.deliver]
  refine congrArg (fun running => { n.holdings with running }) (funext fun name' => ?_)
  simp only [Table.find?_alter]
  split
  · rename_i heq
    subst heq
    cases n.devices.find? name with
    | none => rfl
    | some d => exact hafter d
  · rfl

/-- At first nothing is held. -/
theorem holdings_ofInterfaces (interfaces : List Interface) : (ofInterfaces interfaces).holdings = .idle := by
  -- Each interface is put in standing still.
  have hstill (xs : List (Interface × Nat)) (t : Table String Device)
      (ht : ∀ name, (t.find? name).any (·.running) = false) (name : String) :
      ((xs.foldl (fun t x => t.insert x.1.name { mac := macAt x.2 }) t).find? name).any (·.running) = false := by
    induction xs generalizing t with
    | nil => exact ht name
    | cons x xs ih =>
      refine ih _ fun name' => ?_
      rw [Table.find?_insert]
      split
      · rfl
      · exact ht name'
  exact congrArg (Holdings.mk _ _) (funext fun name => hstill interfaces.zipIdx .empty (fun _ => rfl) name)

/-! ### Operations that leave what is held -/

theorem quiet_configure (name : String) (setup : InterfaceSetup) : Quiet holdings (configure name setup) :=
  does_begun unscripted_holdings (does_onDevice fun _ _ hd => holdings_setDevice_of_eq hd rfl)

theorem quiet_setAddress (name : String) (addressing : Addressing) :
    Quiet holdings (setAddress name addressing) :=
  does_begun unscripted_holdings (does_onDevice fun _ _ hd => holdings_setDevice_of_eq hd rfl)

theorem quiet_setMethod (name : String) (method : AddressMethod) : Quiet holdings (setMethod name method) := by
  have h : Quiet holdings (onDevice name fun d n => (.ok (), n.setDevice name { d with method := some method })) :=
    does_onDevice fun _ _ hd => holdings_setDevice_of_eq hd rfl
  exact fun n => h (n.note (.setMethod name method))

theorem quiet_announceStop (name : String) : Quiet holdings (announceStop name) := by
  refine does_begun unscripted_holdings (does_onDevice fun d n _ => ?_)
  split
  · exact unscripted_holdings.deliver name .ifDownPre n
  · rfl

theorem quiet_register (listener : Listener) (name : String) : Quiet holdings (register listener name) := by
  refine does_onDevice fun d n _ => ?_
  split <;> rfl

theorem quiet_unregister (name : String) : Quiet holdings (unregister name) := by
  refine quiet_of_eq fun n => ?_
  unfold unregister
  split <;> rfl

theorem quiet_status (name : String) : Quiet holdings (status name) := does_onDevice fun _ _ _ => rfl

theorem quiet_netstat (name : String) : Quiet holdings (netstat name) := does_onDevice fun _ _ _ => rfl

theorem quiet_mac (name : String) : Quiet holdings (mac name) := does_onDevice fun _ _ _ => rfl

theorem quiet_request (id : SessionId) : Quiet holdings (request id) :=
  does_inSession fun name n => unscripted_holdings.answer (n.note (.request name))

theorem quiet_renew (id : SessionId) (mode : Renewal) : Quiet holdings (renew id mode) :=
  does_inSession fun name n => unscripted_holdings.answer (n.note (.renew name mode))

theorem quiet_release (id : SessionId) : Quiet holdings (release id) :=
  does_inSession fun name => quiet_of_eq fun n => unscripted_holdings.begin (.release name) .release n

/-! ### Operations that change what is held -/

theorem does_start (name : String) : Does holdings (start name) (fun _ => .setRunning name true) := by
  refine does_begun unscripted_holdings (does_onDevice fun d n _ => ?_)
  split
  · rfl
  · exact holdings_setDevice name _ n

theorem does_stop (name : String) : Does holdings (stop name) (fun _ => .setRunning name false) := by
  refine does_begun unscripted_holdings (does_onDevice fun d n _ => ?_)
  split
  · exact holdings_setDevice name _ n
  · rfl

theorem contains_insert {κ ν : Type} [DecidableEq κ] (t : Table κ ν) (k : κ) (v : ν) :
    (t.insert k v).contains = Function.update t.contains k true := by
  funext k'
  simp only [Table.contains, Table.find?_insert, Function.update_apply, eq_comm (a := k')]
  split <;> rfl

theorem contains_erase {κ ν : Type} [DecidableEq κ] (t : Table κ ν) (k : κ) :
    (t.erase k).contains = Function.update t.contains k false := by
  funext k'
  simp only [Table.contains, Table.find?_erase, Function.update_apply, eq_comm (a := k')]
  split <;> rfl

theorem does_openSession (name : String) :
    Does holdings (openSession name) (fun id => .setSession id true) :=
  does_begun unscripted_holdings (does_onDevice fun _ n _ => by
    exact congrArg (fun session => { n.holdings with session }) (contains_insert n.sessions _ name))

theorem does_startServer (name : String) :
    Does holdings (startServer name) (fun _ => .setServing name true) :=
  does_begun unscripted_holdings fun n => by
    exact congrArg (fun serving => { n.holdings with serving }) (contains_insert n.servers name ())

/-- A session that is not open is closed as well as one that is. -/
theorem holdings_close (id : SessionId) (n : Network) : (close id n).2.holdings = n.holdings.setSession id false := by
  unfold close inSession
  split
  · exact congrArg (fun session => { n.holdings with session }) (contains_erase n.sessions id)
  · rename_i hx
    rw [Holdings.setSession_of_eq]
    simp [holdings, Table.contains, hx]

theorem holdings_stopServer (name : String) (n : Network) :
    (stopServer name n).2.holdings = n.holdings.setServing name false := by
  simp only [stopServer]
  split
  · exact congrArg (fun serving => { n.holdings with serving }) (contains_erase n.servers name)
  · rename_i hx
    rw [Holdings.setServing_of_eq]
    · rfl
    · exact eq_false_of_ne_true hx

end Network

/-! ## Watched boards -/

/-- Whether the next call of an operation is made to fail. -/
def Faulty.strikes {κ ε σ : Type} [DecidableEq κ] (s : Faulty κ ε σ) (k : κ) : Bool :=
  match s.queue k with
  | ⟨_, 0⟩ :: _ => true
  | _ => false

theorem Faulty.inner_behind {κ ε σ α : Type} [DecidableEq κ] {s : Faulty κ ε σ} {k : κ}
    (h : s.strikes k = false) (run : σ → Except ε α × σ) : (behind k run s).2.inner = (run s.inner).2 := by
  unfold strikes at h
  unfold behind
  split <;> rename_i hq
  · rw [hq] at h
    cases h
  · rfl
  · rfl

/-- A board and whether everything was fair so far. -/
structure Watched where
  board : Board
  fair : Bool := true

section
variable {α : Type}

def watch (isFair : Board → Except PlatformError α → Bool) (a : Action Board α) : Action Watched α :=
  fun w => ((a w.board).1, ⟨(a w.board).2, w.fair && isFair w.board (a w.board).1⟩)

/-- An operation whose answers and failures are all fair. -/
def trust (a : Action Board α) : Action Watched α := watch (fun _ _ => true) a

/-- Whether an interface is called stopped only if it is not running. -/
def stopsFairly (name : String) (b : Board) : Except PlatformError Unit → Bool
  | .ok _ => true
  | .error err => !(err.isStopped && b.inner.holdings.running name)

end

def Watched.platform : Platform Watched where
  interfaces := trust Board.platform.interfaces
  ownsDhcpClient w := Board.platform.ownsDhcpClient w.board
  configure name setup := trust (Board.platform.configure name setup)
  start name := trust (Board.platform.start name)
  announceStop name := trust (Board.platform.announceStop name)
  stop name := watch (stopsFairly name) (Board.platform.stop name)
  subscribe name := trust (Board.platform.subscribe name)
  unsubscribe name := trust (Board.platform.unsubscribe name)
  status name := trust (Board.platform.status name)
  netstat name := trust (Board.platform.netstat name)
  mac name := trust (Board.platform.mac name)
  address name := trust (Board.platform.address name)
  setAddress name addressing := trust (Board.platform.setAddress name addressing)
  setMethod name method := trust (Board.platform.setMethod name method)
  openSession name mac := trust (Board.platform.openSession name mac)
  request id := trust (Board.platform.request id)
  renew id mode := trust (Board.platform.renew id mode)
  release id := trust (Board.platform.release id)
  close id := watch (fun b _ => !b.strikes .close) (Board.platform.close id)
  startServer name setup := trust (Board.platform.startServer name setup)
  stopServer name := watch (fun b _ => !b.strikes .stopServer) (Board.platform.stopServer name)

end Simulation

open Simulation

/-! ## Calls -/

namespace Env

def holdings (e : Env Watched) : Holdings := e.platform.board.inner.holdings

def fair (e : Env Watched) : Bool := e.platform.fair

variable {α : Type} {e e' : Env Watched}

/-- Nothing is held that was not held before, nor the other way round. -/
def Undisturbed (e e' : Env Watched) : Prop := e'.holdings = e.holdings ∧ (e'.fair = true → e.fair = true)

theorem Undisturbed.refl (e : Env Watched) : Undisturbed e e := ⟨rfl, id⟩

theorem Undisturbed.trans {e'' : Env Watched} (h : Undisturbed e e') (h' : Undisturbed e' e'') :
    Undisturbed e e'' :=
  ⟨h'.1.trans h.1, fun hf => h.2 (h'.2 hf)⟩

/-- Something was done to what is held, if all was fair. -/
def Did (op : Holdings → Holdings) (e e' : Env Watched) : Prop :=
  e'.fair = true → e.fair = true ∧ e'.holdings = op e.holdings

theorem Undisturbed.did {op : Holdings → Holdings} {e'' : Env Watched} (h : Undisturbed e e') (h' : Did op e' e'') :
    Did op e e'' := by
  intro hf
  obtain ⟨hf', hh⟩ := h' hf
  exact ⟨h.2 hf', by rw [hh, h.1]⟩

theorem undisturbed_signal (e : Env Watched) (x : Signal) (on : Bool) : Undisturbed e (e.signal x on) :=
  ⟨rfl, id⟩

theorem fair_of_watch {isFair : Board → Except PlatformError α → Bool} {a : Action Board α}
    {answer : Except PlatformError α} (h : e.perform (watch isFair a) = (answer, e')) (hf : e'.fair = true) :
    e.fair = true ∧ isFair e.platform.board answer = true := by
  cases h
  exact Bool.and_eq_true_iff.mp hf

theorem effect_of_watch {isFair : Board → Except PlatformError α → Bool} {a : Action Board α}
    {f : α → Holdings → Holdings} (ha : Does (fun b : Board => b.inner.holdings) a f)
    {answer : Except PlatformError α} (h : e.perform (watch isFair a) = (answer, e')) :
    Effect f e.holdings answer e'.holdings := by
  cases h
  exact ha e.platform.board

/-- An operation that answered, and has had its effect if all was fair. -/
theorem did_of_ok {isFair : Board → Except PlatformError α → Bool} {a : Action Board α}
    {f : α → Holdings → Holdings} (ha : Does (fun b : Board => b.inner.holdings) a f) {x : α}
    (h : e.perform (watch isFair a) = (.ok x, e')) : Did (f x) e e' :=
  fun hf => ⟨(fair_of_watch h hf).1, effect_of_watch ha h⟩

/-- An operation that failed. -/
theorem undisturbed_of_error {isFair : Board → Except PlatformError α → Bool} {a : Action Board α}
    {f : α → Holdings → Holdings} (ha : Does (fun b : Board => b.inner.holdings) a f) {err : PlatformError}
    (h : e.perform (watch isFair a) = (.error err, e')) : Undisturbed e e' :=
  ⟨effect_of_watch ha h, fun hf => (fair_of_watch h hf).1⟩

/-- An operation that leaves what is held, whatever it answers. -/
theorem undisturbed_of_quiet {isFair : Board → Except PlatformError α → Bool} {a : Action Board α}
    (ha : Quiet (fun b : Board => b.inner.holdings) a) {answer : Except PlatformError α}
    (h : e.perform (watch isFair a) = (answer, e')) : Undisturbed e e' := by
  refine ⟨?_, fun hf => (fair_of_watch h hf).1⟩
  have heffect := effect_of_watch ha h
  cases answer <;> exact heffect

/-- A session that is closed, while the close is not made to fail, is open no more. -/
theorem did_close {id : SessionId} {answer : Except PlatformError Unit}
    (h : e.perform (Watched.platform.close id) = (answer, e')) : Did (.setSession id false) e e' := by
  intro hf
  obtain ⟨hfair, hstrikes⟩ := fair_of_watch h hf
  refine ⟨hfair, ?_⟩
  cases h
  have hinner : (Board.platform.close id e.platform.board).2.inner = _ :=
    Faulty.inner_behind (by simpa using hstrikes) (Network.close id)
  exact (congrArg Network.holdings hinner).trans (Network.holdings_close id _)

theorem did_stopServer {name : String} {answer : Except PlatformError Unit}
    (h : e.perform (Watched.platform.stopServer name) = (answer, e')) : Did (.setServing name false) e e' := by
  intro hf
  obtain ⟨hfair, hstrikes⟩ := fair_of_watch h hf
  refine ⟨hfair, ?_⟩
  cases h
  have hinner : (Board.platform.stopServer name e.platform.board).2.inner = _ :=
    Faulty.inner_behind (by simpa using hstrikes) (Network.stopServer name)
  exact (congrArg Network.holdings hinner).trans (Network.holdings_stopServer name _)

/-- An interface that was stopped, or that counts as stopped, does not run. -/
theorem did_stop {name : String} {answer : Except PlatformError Unit}
    (h : e.perform (Watched.platform.stop name) = (answer, e'))
    (hs : ∀ err, answer = .error err → err.isStopped = true) : Did (.setRunning name false) e e' := by
  intro hf
  obtain ⟨hfair, hstops⟩ := fair_of_watch h hf
  have heffect := effect_of_watch ((Network.does_stop name).behind Method.stop) h
  refine ⟨hfair, ?_⟩
  cases answer with
  | ok u => exact heffect
  | error err =>
    have hdown : e.platform.board.inner.holdings.running name = false := by
      simpa [stopsFairly, hs err rfl] using hstops
    exact Eq.trans heffect (Holdings.setRunning_of_eq e.holdings hdown).symm

end Env

end Connectivity
