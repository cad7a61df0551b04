/-
  Connectivity.Proofs.Mirrors — the flags that a mode reports are those of its interface.
  - `Env.Steady`: what a view of the platform is, unless a call failed. A normal mode that runs answers every
    event so, for a view that only `stop` changes (`steady_answer`).
  - `InterfaceKind.Mirrors`: the flags of a mode beside those of its interface, which the same events change. They
    are the same but for a station that has gone down without the mode's notice (`Event.overlooked`).
  - `Reflected`, `Following`: so it is after every event (`Following.inject`), and `run_flags` after any number.
-/

import Connectivity.Proofs.Addresses
import Connectivity.Proofs.Control
import Connectivity.Proofs.LinkOrder
import Connectivity.Proofs.Subscriptions

namespace Connectivity

open Simulation

variable {σ τ α β : Type}

/-! ## Calls that are counted -/

/-- A platform that stops nothing. -/
def Platform.unstopping (P : Platform σ) : Platform σ := { P with stop := fun _ s => (.ok (), s) }

/-- A control plane over a platform whose failing calls are counted. -/
def ControlPlane.counting (M : ControlPlane σ τ) : ControlPlane (Audited σ) τ :=
  { policy := M.policy, platform := M.platform.audited, store := M.store, memory := M.memory, valid := M.valid }

/-- The state that a call leads to looks the same, and no fewer calls have failed. -/
def Audited.Kept (view : σ → β) (x y : Audited σ) : Prop := x.failed ≤ y.failed ∧ view y.inner = view x.inner

theorem Simulation.Quiet.kept {view : σ → β} {a : Action σ α} (ha : Quiet view a) (x : Audited σ) :
    x.Kept view (audit a x).2 := by
  refine ⟨le_failed_audit a x, ?_⟩
  have hsame := ha.eq x.inner
  unfold audit
  split <;> rename_i hx <;> rw [hx] at hsame <;> exact hsame

theorem Platform.Leaves.audited {P : Platform σ} {view : σ → β} (hP : P.Leaves view) :
    P.audited.Within (Audited.Kept view) where
  refl _ := ⟨Nat.le_refl _, rfl⟩
  trans h h' := ⟨Nat.le_trans h.1 h'.1, h'.2.trans h.2⟩
  interfaces := hP.interfaces.kept
  configure name setup := (hP.configure name setup).kept
  start name := (hP.start name).kept
  announceStop name := (hP.announceStop name).kept
  stop name := (hP.stop name).kept
  subscribe name := (hP.subscribe name).kept
  unsubscribe name := (hP.unsubscribe name).kept
  status name := (hP.status name).kept
  netstat name := (hP.netstat name).kept
  mac name := (hP.mac name).kept
  address name := (hP.address name).kept
  setAddress name addressing := (hP.setAddress name addressing).kept
  setMethod name method := (hP.setMethod name method).kept
  openSession name mac := (hP.openSession name mac).kept
  request id := (hP.request id).kept
  renew id mode := (hP.renew id mode).kept
  release id := (hP.release id).kept
  close id := (hP.close id).kept
  startServer name setup := (hP.startServer name setup).kept
  stopServer name := (hP.stopServer name).kept

/-! ## What an event leaves of a platform -/

/-- Unless a call failed, the platform looks as before. -/
structure Env.Steady (view : σ → β) (e e' : Env (Audited σ)) : Prop where
  failed : e.platform.failed ≤ e'.platform.failed
  same : e'.platform.failed = e.platform.failed → view e'.platform.inner = view e.platform.inner

section
variable {view : σ → β} {e e' e'' : Env (Audited σ)} {P : Platform σ} {m : ModeState}

theorem Env.Steady.refl (view : σ → β) (e : Env (Audited σ)) : e.Steady view e := ⟨Nat.le_refl _, fun _ => rfl⟩

theorem Env.Steady.trans (h : e.Steady view e') (h' : e'.Steady view e'') : e.Steady view e'' := by
  have hle := h.failed
  have hle' := h'.failed
  refine ⟨Nat.le_trans hle hle', fun hf => ?_⟩
  rw [h'.same (by omega), h.same (by omega)]

theorem Audited.Kept.steady (h : e.platform.Kept view e'.platform) : e.Steady view e' := ⟨h.1, fun _ => h.2⟩

/-- What a mode does without stopping its interface. -/
theorem Env.steady_of_deeds (hP : P.unstopping.Leaves view) {x y : ModeState × Env (Audited σ)}
    (h : Deeds P.unstopping.audited x y) : x.2.Steady view y.2 :=
  Audited.Kept.steady (hP.audited.deeds h)

/-- An interface is stopped only after it was not started again. -/
theorem Link.steady_restart (hP : P.unstopping.Leaves view) (m : ModeState) (e : Env (Audited σ)) :
    e.Steady view (restart P.audited m e).2 := by
  unfold restart
  split
  · exact .refl view e
  · rename_i name _
    split <;> rename_i e' hx
    · exact Audited.Kept.steady (within_perform (hP.start name).kept hx)
    · have hfailed : e'.platform.failed = e.platform.failed + 1 := Env.setbacks_of_error hx
      have hle : e'.platform.failed ≤ (audit (P.stop name) e'.platform).2.failed := le_failed_audit _ _
      have hlt : e.platform.failed < (audit (P.stop name) e'.platform).2.failed := by omega
      exact ⟨Nat.le_of_lt hlt, fun hf => absurd hf (Nat.ne_of_gt hlt)⟩

namespace Dispatch

theorem steady_ethernet (hP : P.unstopping.Leaves view) (event : Event) (hm : m.mode = .normal)
    (hr : m.status.isRunning = true) (e : Env (Audited σ)) : e.Steady view (ethernet P.audited event m e).2 := by
  have hsame : ethernet P.audited event m e = ethernet P.unstopping.audited event m e := by
    cases event <;> rfl
  rw [hsame]
  exact Env.steady_of_deeds hP (deeds_ethernet event hm hr)

theorem steady_station (hP : P.unstopping.Leaves view) (event : Event) (hm : m.mode = .normal)
    (hr : m.status.isRunning = true) (e : Env (Audited σ)) : e.Steady view (station P.audited event m e).2 := by
  have hlost (ifUp : Bool) : e.Steady view (Link.loseLink P.audited { m with ifUp, linkUp := false } e).2 :=
    Env.steady_of_deeds hP (Link.deeds_loseLink (m := { m with ifUp, linkUp := false }) hr)
  cases event with
  | stationDisconnected =>
    simp only [station]
    split
    · exact (hlost m.ifUp).trans (Link.steady_restart hP _ _)
    · exact hlost m.ifUp
  | stationStopped =>
    simp only [station]
    split
    · exact .refl view e
    · exact (hlost false).trans (Link.steady_restart hP _ _)
  | stationConnected =>
    have hsame : station P.audited .stationConnected m e = station P.unstopping.audited .stationConnected m e := rfl
    rw [hsame]
    exact Env.steady_of_deeds hP (deeds_station .stationConnected hm hr)
  | ifDown => exact hlost m.ifUp
  | linkDown => exact hlost m.ifUp
  | _ => exact .refl view e

/-- A normal mode that runs answers an event without stopping its interface, unless a call fails. -/
theorem steady_answer (hP : P.unstopping.Leaves view) (retry : Nat) (event : Event) (hm : m.mode = .normal)
    (hr : m.status.isRunning = true) (e : Env (Audited σ)) : e.Steady view (answer P.audited retry event m e).2 := by
  have hkind (event : Event) : e.Steady view (byKind P.audited event m e).2 := by
    unfold byKind
    split
    · rename_i h
      rw [hm] at h
      cases h
    · exact steady_ethernet hP event hm hr e
    · exact steady_station hP event hm hr e
    · exact .refl view e
  unfold answer
  split
  · have hsame : Link.tick P.audited retry m e = Link.tick P.unstopping.audited retry m e := rfl
    rw [hsame]
    exact Env.steady_of_deeds hP (Link.runsErrands_tick retry hr).deeds
  · split
    · exact .refl view e
    · exact hkind .ifDown
  · exact hkind event

end Dispatch

end

/-! ## Flags -/

/-- Whether interface and link are up, as a mode has it. -/
def ModeState.flags (m : ModeState) : Bool × Bool := (m.ifUp, m.linkUp)

namespace Link

variable {P : Platform σ} {m : ModeState} {e : Env σ}

theorem flags_askForLease (name : String) : (askForLease P name m e).1.flags = m.flags := by
  unfold askForLease
  split
  · rfl
  · split <;> rfl

theorem flags_assignLease (name : String) : (assignLease P name m e).1.flags = m.flags := by
  unfold assignLease
  split
  · split <;> rfl
  · split
    · exact flags_askForLease name
    · split
      · rfl
      · exact flags_askForLease name

theorem flags_gainLink : (gainLink P m e).1.flags = m.flags := by
  unfold gainLink assignStatic
  split
  · rfl
  · split
    · split <;> rfl
    · exact flags_assignLease _

theorem flags_loseLink : (loseLink P m e).1.flags = m.flags := by
  rw [loseLink_fst]
  rfl

end Link

namespace Event

/-- The flags of an interface after an event. -/
def flags : Event → Bool × Bool → Bool × Bool
  | .ifUp, x => (true, x.2)
  | .apStarted, x => (true, x.2)
  | .ifDown, _ => (false, false)
  | .stationStopped, _ => (false, false)
  | .linkUp, x => (x.1, true)
  | .linkDown, x => (x.1, false)
  | .stationDisconnected, x => (x.1, false)
  | .stationConnected, _ => (true, true)
  | _, x => x

/-- Whether a station is up by what it said itself, the latest event first. -/
def joined : List Event → Bool
  | [] => false
  | .stationConnected :: _ => true
  | .stationStopped :: _ => false
  | _ :: history => joined history

/-- A station that had connected has gone down, and has neither connected nor been stopped since. -/
def overlooked : List Event → Bool
  | [] => false
  | .ifDown :: history => joined history
  | .stationConnected :: _ => false
  | .stationStopped :: _ => false
  | _ :: history => overlooked history

end Event

namespace InterfaceKind

/-- The events of interface and link that interfaces of a kind have. -/
def reports : InterfaceKind → Event → Bool
  | .ethernet, .ifUp => true
  | .ethernet, .ifDown => true
  | .ethernet, .linkUp => true
  | .ethernet, .linkDown => true
  | .wifi, .stationConnected => true
  | .wifi, .stationDisconnected => true
  | .wifi, .stationStopped => true
  | .wifi, .ifDown => true
  | .wifi, .linkDown => true
  | _, _ => false

/-- The flags of a normal mode after an event: of a station that goes down it takes note only that its link
    is down. -/
def heard : InterfaceKind → Event → Bool × Bool → Bool × Bool
  | .wifi, .ifDown, x => (x.1, false)
  | _, event, x => event.flags x

/-- Flags of a mode, and flags of its interface after the same events. -/
structure Mirrors (kind : InterfaceKind) (history : List Event) (m d : Bool × Bool) : Prop where
  link : m.2 = d.2
  up : d.1 = (m.1 && !Event.overlooked history)
  stale : Event.overlooked history = true → m.1 = true
  station : kind = .wifi → m.1 = Event.joined history
  ethernet : kind = .ethernet → Event.overlooked history = false ∧ Event.joined history = false

theorem mirrors_nil (kind : InterfaceKind) : kind.Mirrors [] (false, false) (false, false) :=
  ⟨rfl, rfl, nofun, fun _ => rfl, fun _ => ⟨rfl, rfl⟩⟩

theorem Mirrors.step {kind : InterfaceKind} {history : List Event} {m d : Bool × Bool} (h : kind.Mirrors history m d)
    {event : Event} (he : kind.reports event = true) :
    kind.Mirrors (event :: history) (kind.heard event m) (event.flags d) := by
  obtain ⟨hlink, hup, hstale, hstation, hethernet⟩ := h
  cases kind with
  | ethernet =>
    obtain ⟨hseen, hjoined⟩ := hethernet rfl
    cases event with
    | ifUp | ifDown | linkUp | linkDown =>
      constructor <;> simp_all [heard, Event.flags, Event.overlooked, Event.joined]
    | _ => cases he
  | wifi =>
    have hjoined := hstation rfl
    cases event with
    | stationConnected | stationDisconnected | stationStopped | ifDown | linkDown =>
      constructor <;> simp_all [heard, Event.flags, Event.overlooked, Event.joined]
    | _ => cases he

end InterfaceKind

namespace Dispatch

variable {P : Platform σ} {m : ModeState} {e : Env σ}

theorem flags_bothUp : (bothUp P m e).1.flags = m.flags := by
  unfold bothUp
  split
  · exact Link.flags_gainLink
  · rfl

theorem flags_ethernet {event : Event} (he : InterfaceKind.ethernet.reports event = true) :
    (ethernet P event m e).1.flags = InterfaceKind.ethernet.heard event m.flags := by
  cases event with
  | ifUp => exact flags_bothUp
  | linkUp => exact flags_bothUp
  | ifDown => exact Link.flags_loseLink
  | linkDown => exact Link.flags_loseLink
  | _ => cases he

theorem flags_station {event : Event} (he : InterfaceKind.wifi.reports event = true) :
    (station P event m e).1.flags = InterfaceKind.wifi.heard event m.flags := by
  cases event with
  | stationConnected =>
    simp only [station]
    split
    · exact Link.flags_gainLink
    · rfl
  | stationDisconnected =>
    simp only [station]
    split
    · rw [Link.restart_fst]
      exact Link.flags_loseLink
    · exact Link.flags_loseLink
  | stationStopped =>
    simp only [station]
    split
    · rfl
    · rw [Link.restart_fst]
      exact Link.flags_loseLink
  | ifDown => exact Link.flags_loseLink
  | linkDown => exact Link.flags_loseLink
  | _ => cases he

/-- What a normal mode that runs makes of the events of its interface. -/
theorem flags_answer (retry : Nat) {kind : InterfaceKind} {event : Event} (hm : m.mode = .normal)
    (hk : m.carrierKind? = some kind) (hr : m.status.isRunning = true) (he : kind.reports event = true) :
    (answer P retry event m e).1.flags = kind.heard event m.flags := by
  have hkind : (byKind P event m e).1.flags = kind.heard event m.flags := by
    unfold byKind
    rw [hm, hk]
    cases kind with
    | ethernet => exact flags_ethernet he
    | wifi => exact flags_station he
  have hends : m.status ≠ .disconnecting := by
    intro hs
    rw [hs] at hr
    cases hr
  unfold answer
  split
  · cases kind <;> cases he
  · rw [if_neg hends]
    exact hkind
  · exact hkind

end Dispatch

/-! ## Boards -/

namespace Simulation

/-- Whether an interface and its link are up, as its status says. -/
def Device.flags (d : Device) : Bool × Bool := (d.ifUp, d.linkUp)

namespace Network

theorem flags_after (d : Device) (event : Event) : (Device.after d event).flags = event.flags d.flags := by
  cases event <;> rfl

theorem flags_occur (name : String) (event : Event) (n : Network) :
    (n.occur name event).2.seen Device.flags name = (n.seen Device.flags name).map event.flags := by
  rw [seen_occur, if_pos rfl, seen, Option.map_map]
  simp only [flags_after, Function.comp_def]

/-- An event is for the control plane where that listens. -/
theorem occur_of_heard {name : String} {n : Network} (h : n.listeners.find? name = some .controlPlane)
    (event : Event) : (n.occur name event).1 = true := by
  simp only [occur, deliver, h]

/-- Only a stop changes the flags of interfaces. -/
theorem leaves_flags : platform.unstopping.Leaves (seen Device.flags) :=
  have hstill : platform.still.Leaves (seen Device.flags) := leaves_seen fun _ _ _ _ => rfl
  { hstill with
    setAddress := fun _ _ =>
      does_begun (unscripted_seen _) (does_onDevice fun _ _ hd => seen_setDevice_of_eq hd rfl) }

end Network

theorem Board.leaves_flags : Board.platform.unstopping.Leaves fun b => b.inner.seen Device.flags :=
  { leaves_faultyPlatform Network.leaves_flags with stop := fun _ => quiet_of_eq fun _ => rfl }

end Simulation

namespace ControlPlane

variable {M : ControlPlane Board τ} {s s₁ : State (Audited Board) τ} {base : Nat} {c : Carrier}
  {history : List Event} {m : ModeState} {e : Env (Audited Board)} {event : Event}

/-- The network of a board whose calls are counted. -/
def network (s : State (Audited Board) τ) : Network := s.env.platform.inner.inner

/-- What the platform makes of an event on an interface. -/
def shaken (name : String) (event : Event) (e : Env (Audited Board)) : Env (Audited Board) :=
  { e with platform.inner.inner := (e.platform.inner.inner.occur name event).2 }

variable (M) in
/-- An event happens on an interface: it changes the interface, and if the control plane hears it, it is
    handled. -/
def inject (name : String) (s : State (Audited Board) τ) (event : Event) : State (Audited Board) τ :=
  let s' := { s with env := shaken name event s.env }
  if ((network s).occur name event).1 then M.counting.receive name event s' else s'

/-- A normal mode that runs on an interface that is heard; and unless a call failed, its flags beside those of the
    interface. -/
structure Reflected (base : Nat) (c : Carrier) (history : List Event) (m : ModeState) (e : Env (Audited Board)) :
    Prop where
  mode : m.mode = .normal
  carrier : m.carrier = some c
  running : m.status.isRunning = true
  heard : e.platform.inner.inner.listeners.find? c.name = some .controlPlane
  failed : base ≤ e.platform.failed
  mirrors : e.platform.failed = base →
    ∃ d, e.platform.inner.inner.seen Device.flags c.name = some d ∧ c.kind.Mirrors history m.flags d

theorem mode_reaction (name : String) (event : Event) (m : ModeState) (e : Env (Audited Board)) :
    (M.counting.reaction name event m e).1.mode = m.mode := by
  unfold reaction
  split
  · split
    · split <;> rfl
    · simp only [ModeState.refresh_snd]
      exact ModeState.mode_of_fixed (Dispatch.fixed_answer _ _ event m e)
  · rfl

/-- An access point does nothing about what becomes of a link. -/
theorem reaction_accessPoint (hm : m.mode = .accessPoint) {kind : InterfaceKind} (he : kind.reports event = true)
    (name : String) (e : Env (Audited Board)) : (M.counting.reaction name event m e).2 = e := by
  have hkind (event : Event) (he : kind.reports event = true) :
      (Dispatch.byKind M.counting.platform event m e).2 = e := by
    unfold Dispatch.byKind
    rw [hm]
    cases kind <;> cases event <;> first | rfl | cases he
  have hanswer : (Dispatch.answer M.counting.platform M.counting.policy.retryNanos event m e).2 = e := by
    unfold Dispatch.answer
    split
    · cases kind <;> cases he
    · split
      · rfl
      · exact hkind .ifDown he
    · exact hkind event he
  unfold reaction
  split
  · rw [if_neg (by rintro rfl; cases kind <;> cases he)]
    exact hanswer
  · rfl

/-- No event that a normal mode answers changes who listens. -/
theorem listeners_answer (hM : M.platform = Board.platform) (hr : m.status.isRunning = true) (event : Event)
    (e : Env (Audited Board)) :
    (Dispatch.answer M.counting.platform M.counting.policy.retryNanos event m e).2.platform.inner.inner.listeners =
      e.platform.inner.inner.listeners := by
  have hdeaf : Dispatch.answer M.counting.platform M.counting.policy.retryNanos event m e =
      Dispatch.answer Board.platform.deaf.audited M.policy.retryNanos event m e := by
    rw [show M.counting.platform = Board.platform.audited from congrArg Platform.audited hM]
    rfl
  rw [hdeaf]
  have hports := Board.leaves_ports.audited.deeds (Dispatch.deeds_answer (e := e) M.policy.retryNanos event hr)
  exact congrArg Prod.snd hports.2

/-- What an event makes of the mode and of its interface. -/
theorem Reflected.answered (hM : M.platform = Board.platform) (h : Reflected base c history m e)
    (he : c.kind.reports event = true) :
    let x := Dispatch.answer M.counting.platform M.counting.policy.retryNanos event m (shaken c.name event e)
    Reflected base c (event :: history) x.1 x.2 := by
  intro x
  have hP : M.platform.unstopping.Leaves fun b => b.inner.seen Device.flags := hM ▸ Board.leaves_flags
  have hkind : m.carrierKind? = some c.kind := by rw [ModeState.carrierKind?, h.carrier]; rfl
  have hlisten : x.2.platform.inner.inner.listeners = (shaken c.name event e).platform.inner.inner.listeners :=
    listeners_answer hM h.running event _
  have hsteady : (shaken c.name event e).Steady (fun b => b.inner.seen Device.flags) x.2 :=
    Dispatch.steady_answer hP M.policy.retryNanos event h.mode h.running _
  have hflags : x.1.flags = c.kind.heard event m.flags :=
    Dispatch.flags_answer M.policy.retryNanos h.mode hkind h.running he
  have hdeeds : Deeds M.counting.platform (m, shaken c.name event e) x :=
    Dispatch.deeds_answer M.policy.retryNanos event h.running
  have hfixed : x.1.fixed = m.fixed := Dispatch.fixed_answer _ _ event m _
  have hle : e.platform.failed ≤ x.2.platform.failed := hsteady.failed
  refine ⟨(ModeState.mode_of_fixed hfixed).trans h.mode, (ModeState.carrier_of_fixed hfixed).trans h.carrier,
    hdeeds.isRunning h.running, ?_, Nat.le_trans h.failed hle, fun hf => ?_⟩
  · rw [hlisten]
    exact (congrArg (·.find? c.name) (Network.listeners_occur c.name event _)).trans h.heard
  · have hbefore : e.platform.failed = base := by
      have hbase := h.failed
      omega
    obtain ⟨d, hd, hmirrors⟩ := h.mirrors hbefore
    refine ⟨event.flags d, ?_, hflags ▸ hmirrors.step he⟩
    -- No call has failed, so the interface is as the event left it.
    have hseen := congrFun (hsteady.same (hf.trans hbefore.symm)) c.name
    exact hseen.trans ((Network.flags_occur c.name event _).trans (congrArg (Option.map event.flags) hd))

theorem Reflected.refresh (h : Reflected base c history m e) : Reflected base c history m.refresh.2 e := by
  rw [ModeState.refresh_snd]
  exact ⟨h.mode, h.carrier, h.running, h.heard, h.failed, h.mirrors⟩

theorem Reflected.reaction (hM : M.platform = Board.platform) (h : Reflected base c history m e)
    (he : c.kind.reports event = true) :
    let x := M.counting.reaction c.name event m (shaken c.name event e)
    Reflected base c (event :: history) x.1 x.2 := by
  have haccepts : m.accepts c.name = true :=
    ModeState.accepts_iff.mpr ⟨Status.ne_of_isRunning h.running, ModeState.carrierName?_of_carrier h.carrier⟩
  have hpre : event ≠ .ifDownPre := by
    rintro rfl
    cases hk : c.kind <;> rw [hk] at he <;> cases he
  unfold ControlPlane.reaction
  rw [if_pos haccepts, if_neg hpre]
  exact (h.answered hM he).refresh

/-! ## Runs of events -/

/-- The control plane can be asked through the handle, and the normal mode is reflected. -/
structure Following (base : Nat) (c : Carrier) (h : Handle) (history : List Event) (s : State (Audited Board) τ) :
    Prop where
  handle : s.roster.modeOf h = .ok .normal
  unlocked : s.roster.locked = false
  modes : ∃ r, s.roster.modes = some r ∧ r.accessPoint.mode = .accessPoint ∧
    Reflected base c history r.normal s.env

theorem locked_tell (s : State (Audited Board) τ) (mode : Mode) : (s.tell mode).roster.locked = s.roster.locked := by
  unfold State.tell
  split <;> rfl

theorem locked_react (name : String) (event : Event) (mode : Mode) (s : State (Audited Board) τ) :
    (M.counting.react name event mode s).roster.locked = s.roster.locked := by
  unfold react
  split
  · rfl
  · split
    · exact locked_tell _ mode
    · rfl

theorem modeOf_congr {r r' : Roster} (h : r'.slots = r.slots) (handle : Handle) :
    r'.modeOf handle = r.modeOf handle := by
  simp only [Roster.modeOf, h]

theorem Following.inject (hM : M.platform = Board.platform) {h : Handle} (hs : Following base c h history s)
    (he : c.kind.reports event = true) : Following base c h (event :: history) (M.inject c.name s event) := by
  obtain ⟨hhandle, hunlocked, r, hr, hap, hnormal⟩ := hs
  have hpre : event ≠ .ifDownPre := by
    rintro rfl
    cases hk : c.kind <;> rw [hk] at he <;> cases he
  have hheard : ((network s).occur c.name event).1 = true := Network.occur_of_heard hnormal.heard event
  unfold ControlPlane.inject
  simp only [hheard, if_true]
  have hview := view_receive (M := M.counting) (s := { s with env := shaken c.name event s.env }) hr c.name event
  have hmodes := congrArg Prod.fst hview
  have henv := congrArg Prod.snd hview
  have huntouched := untouched_receive (M := M.counting) c.name event { s with env := shaken c.name event s.env }
  refine ⟨(modeOf_congr huntouched.slots h).trans hhandle, ?_, _, hmodes, ?_, ?_⟩
  · rw [receive_eq_react hpre, locked_react, locked_react]
    exact hunlocked
  · exact (mode_reaction c.name event r.accessPoint _).trans hap
  · have hstill := reaction_accessPoint (M := M) hap he c.name
      (M.counting.reaction c.name event r.normal (shaken c.name event s.env)).2
    rw [show (M.counting.receive c.name event { s with env := shaken c.name event s.env }).env = _ from
      henv.trans hstill]
    exact hnormal.reaction hM he

/-! ## Starts -/

/-- A start changes neither the flags of interfaces nor who listens. -/
theorem start_kept (hM : M.platform = Board.platform) (hl : ∀ r, s.roster.modes = some r → r.Labelled)
    (hc : ∀ r, s.roster.modes = some r → r.Consistent none) (h : Handle) (source : ParameterSource) :
    (network (M.counting.start h source s).2).seen Device.flags = (network s).seen Device.flags ∧
      (network (M.counting.start h source s).2).listeners = (network s).listeners := by
  have hflags : M.platform.unstopping.Leaves fun b => b.inner.seen Device.flags := hM ▸ Board.leaves_flags
  have hports : M.platform.deaf.Leaves fun b => b.inner.ports := hM ▸ Board.leaves_ports
  have hinner : (Move.start h source : Move (Audited Board) τ).isInner = true := rfl
  constructor
  · let N : ControlPlane (Audited Board) τ := { M.counting with platform := M.platform.unstopping.audited }
    have hkept := step_within (M := N) hflags.audited hl hc hinner
    exact hkept.2
  · have hkept := step_within (M := M.deaf.counting) hports.audited hl hc hinner
    exact congrArg Prod.snd hkept.2

/-- A call that succeeds had the lock, and gives it back if it does not keep it. -/
theorem unlocked_of_withMode {h : Handle} {isControl : Bool} {run : ModeState → Operation (Audited Board) τ α} {a : α}
    (hrun : ∀ m s', (run m s').2.roster.locked = s'.roster.locked) (hok : (withMode h isControl run s).1 = .ok a) :
    (withMode h isControl run s).2.roster.locked = false := by
  unfold withMode withHandle at hok ⊢
  cases hx : s.roster.enter h isControl with
  | mk answer roster =>
    rw [hx] at hok
    cases answer with
    | error err => cases hok
    | ok g =>
      cases hl : roster.lock with
      | error err =>
        simp only [hl] at hok
        cases hok
      | ok r =>
        simp only [hl, Roster.locked_leave, hrun]
        exact (Roster.lock_eq_ok hl).1

theorem locked_bringUp (m : ModeState) (kind : InterfaceKind) (p : Parameters) (s : State (Audited Board) τ) :
    (M.counting.bringUp m kind p s).2.roster.locked = s.roster.locked := by
  unfold bringUp
  split
  · rfl
  · exact locked_tell _ _

theorem unlocked_of_start {h : Handle} {source : ParameterSource} (hok : (M.counting.start h source s).1 = .ok ()) :
    (M.counting.start h source s).2.roster.locked = false := by
  refine unlocked_of_withMode (fun m s' => ?_) hok
  split
  · rfl
  · obtain ⟨hroster, -⟩ : _ ∧ M.counting.Leads false s'.view _ := resolve_leads m source s'
    have hlocked := congrArg Roster.locked hroster
    split <;> rename_i hx <;> rw [hx] at hlocked
    · exact hlocked
    · split
      · exact hlocked
      · exact (locked_bringUp m _ _ _).trans hlocked

/-- A status says what is seen of an interface. -/
theorem status_eq_ok {name : String} {n : Network} {x : InterfaceState} :
    (Network.status name n).1 = .ok x → n.seen Device.flags name = some (x.isUp, x.isLinkUp) := by
  unfold Network.status Network.onDevice Network.seen
  intro h
  split at h
  · rename_i d hd
    cases h
    rw [hd]
    rfl
  · cases h

theorem status_of_seen {name : String} {n : Network} {d : Bool × Bool} (h : n.seen Device.flags name = some d) :
    ∃ x, (Network.status name n).1 = .ok x ∧ d = (x.isUp, x.isLinkUp) := by
  obtain ⟨device, hd, rfl⟩ := Option.map_eq_some_iff.mp h
  exact ⟨⟨device.ifUp, device.linkUp, device.rssi⟩, by simp only [Network.status, Network.onDevice, hd], rfl⟩

theorem reflected_begun {p : Parameters} (hm : m.mode = .normal)
    (hheard : e.platform.inner.inner.listeners.find? c.name = some .controlPlane)
    (hdown : e.platform.inner.inner.seen Device.flags c.name = some (false, false)) :
    Reflected e.platform.failed c [] (m.begun c p) e := by
  rw [ModeState.begun, ModeState.refresh_snd]
  exact ⟨hm, rfl, rfl, hheard, Nat.le_refl _, fun _ => ⟨_, hdown, InterfaceKind.mirrors_nil c.kind⟩⟩

/-- A mode that was started has no flags, as its interface is to have none. -/
theorem following_start (hM : M.platform = Board.platform) {env : Env (Audited Board)} {store : τ}
    (hs : M.counting.Reach (fun _ _ => True) (M.counting.initial env store) s) {h : Handle} {source : ParameterSource}
    (hm : s.roster.modeOf h = .ok .normal) (hok : M.counting.start h source s = (.ok (), s₁))
    (hc : (s₁.mode? .normal).bind (·.carrier) = some c)
    (hheard : (network s).listeners.find? c.name = some .controlPlane)
    (hdown : (network s).seen Device.flags c.name = some (false, false)) :
    Following s₁.env.platform.failed c h [] s₁ := by
  have hl := hs.labelled rfl
  have hl₁ := (hs.started hok).labelled rfl
  obtain rfl : (M.counting.start h source s).2 = s₁ := congrArg Prod.snd hok
  have hok : (M.counting.start h source s).1 = .ok () := congrArg Prod.fst hok
  obtain ⟨r, c', p, hr, -⟩ := start_begun hl hm hok
  obtain ⟨hflags, hlisteners⟩ := start_kept hM hl (fun r => hs.consistent rfl) h source
  have hslots := (untouched_start (M := M.counting) hs.commanded.1 (by decide) h source).slots
  obtain rfl : c' = c := by
    rw [State.mode?, hr, ModeState.begun, ModeState.refresh_snd] at hc
    exact Option.some.inj hc
  have hmode : (r.get .normal).mode = .normal := by
    have hbegun := hl₁ _ hr .normal
    rwa [Modes.get_set, if_pos rfl, ModeState.begun, ModeState.refresh_snd] at hbegun
  exact ⟨(modeOf_congr hslots h).trans hm, unlocked_of_start hok, _, hr, hl₁ _ hr .accessPoint,
    reflected_begun hmode (by rw [← hheard, ← hlisteners]; rfl) ((congrFun hflags _).trans hdown)⟩

/-! ## What is reported -/

theorem live?_of_modeOf {r : Roster} {h : Handle} {mode : Mode} (hm : r.modeOf h = .ok mode) :
    ∃ e, r.live? h = some e ∧ e.mode = mode := by
  unfold Roster.modeOf at hm
  split at hm
  · cases hm
  · rename_i slots hs
    split at hm
    · cases hm
    · rename_i e he
      exact ⟨e, by rw [Roster.live?, hs]; exact he, Except.ok.inj hm⟩

/-- The flags that are reported are those of the mode. -/
theorem Following.flags {h : Handle} (hs : Following base c h history s) :
    ∃ m, s.mode? .normal = some m ∧ Reflected base c history m s.env ∧
      (ControlPlane.flags h s).1 = .ok (m.ifUp, m.linkUp) := by
  obtain ⟨hhandle, hunlocked, r, hr, -, hnormal⟩ := hs
  refine ⟨r.normal, by rw [State.mode?, hr]; rfl, hnormal, ?_⟩
  obtain ⟨entry, hlive, hmode⟩ := live?_of_modeOf hhandle
  have hentered : (s.roster.enter h false).1 = .ok ⟨h, entry.mode, entry.access, false⟩ :=
    Roster.enter_of_idle hlive fun hcontrol => by cases hcontrol
  rcases withMode_granted hentered hr fun m s => (Except.ok (m.ifUp, m.linkUp), s) with ⟨hlocked, -⟩ | ⟨_, -, -, hx, -⟩
  · rw [hunlocked] at hlocked
    cases hlocked
  · rw [hmode] at hx
    exact hx

theorem following_events (hM : M.platform = Board.platform) {h : Handle} {events : List Event}
    (hs : Following base c h history s) (he : ∀ event ∈ events, c.kind.reports event = true) :
    Following base c h (events.reverse ++ history) (events.foldl (M.inject c.name) s) := by
  induction events generalizing s history with
  | nil => exact hs
  | cons event events ih =>
    rw [List.reverse_cons, List.append_assoc, List.singleton_append]
    exact ih (hs.inject hM (he event (.head events))) fun event' hmem => he event' (.tail event hmem)

/-- Let a normal mode be started while its interface is down and heard, and let any events of its kind of interface
    happen there. As long as no call fails, the mode runs and reports its link as the interface's own status
    does; and its interface too, unless it is a station that had connected, has gone down, and has neither
    connected nor been stopped since. -/
theorem run_flags (hM : M.platform = Board.platform) {env : Env (Audited Board)} {store : τ}
    (hs : M.counting.Reach (fun _ _ => True) (M.counting.initial env store) s) {h : Handle} {source : ParameterSource}
    (hm : s.roster.modeOf h = .ok .normal) (hok : M.counting.start h source s = (.ok (), s₁))
    (hc : (s₁.mode? .normal).bind (·.carrier) = some c)
    (hheard : (network s).listeners.find? c.name = some .controlPlane)
    {before : InterfaceState} (hbefore : (Network.status c.name (network s)).1 = .ok before)
    (hdown : before.isUp = false ∧ before.isLinkUp = false)
    {events : List Event} (he : ∀ event ∈ events, c.kind.reports event = true) :
    let s' := events.foldl (M.inject c.name) s₁
    s'.env.platform.failed = s₁.env.platform.failed →
      (∃ m, s'.mode? .normal = some m ∧ m.status.isRunning = true) ∧
      ∃ ifUp port, (Network.status c.name (network s')).1 = .ok port ∧
        (ControlPlane.flags h s').1 = .ok (ifUp, port.isLinkUp) ∧
        (ifUp = port.isUp ↔ Event.overlooked events.reverse = false) ∧ (c.kind = .ethernet → ifUp = port.isUp) := by
  intro s' hf
  have hseen : (network s).seen Device.flags c.name = some (false, false) := by
    rw [status_eq_ok hbefore, hdown.1, hdown.2]
  have hfollowing := following_events hM (following_start hM hs hm hok hc hheard hseen) he
  rw [List.append_nil] at hfollowing
  obtain ⟨m, hmode, hreflected, hflags⟩ := hfollowing.flags
  obtain ⟨d, hd, hmirrors⟩ := hreflected.mirrors hf
  obtain ⟨port, hport, rfl⟩ := status_of_seen hd
  obtain ⟨hlink, hup, hstale, -, hethernet⟩ := hmirrors
  have hiff : m.ifUp = port.isUp ↔ Event.overlooked events.reverse = false := by
    have hup : port.isUp = (m.ifUp && !Event.overlooked events.reverse) := hup
    have hstale : Event.overlooked events.reverse = true → m.ifUp = true := hstale
    cases ho : Event.overlooked events.reverse with
    | false => simp [hup, ho]
    | true => simp [hup, ho, hstale ho]
  have hlink : m.linkUp = port.isLinkUp := hlink
  exact ⟨⟨m, hmode, hreflected.running⟩, m.ifUp, port, hport, hlink ▸ hflags, hiff,
    fun hkind => hiff.mpr (hethernet hkind).1⟩

end ControlPlane

namespace Camera

open ControlPlane

/-- The camera with its failing calls counted. -/
def counted : State (Audited Board) Shelf :=
  plane.counting.initial { platform := { inner := Board.ofInterfaces Network.twoPortBoard } } { inner := {} }

/-- The camera as it was started for a network over Wi-Fi. -/
def scanning : State (Audited Board) Shelf :=
  (plane.counting.start normal (.given home) (plane.counting.run switchOn counted)).2

/-- The network comes and goes, the interface goes down and is stopped, and the network comes again. -/
def fading : List Event :=
  [.stationConnected, .stationDisconnected, .stationConnected, .linkDown, .ifDown, .stationStopped, .stationConnected]

theorem fading_flags :
    let s := plane.counting.run switchOn counted
    let s' := fading.foldl (plane.inject "wlan0") scanning
    s.roster.modeOf normal = .ok .normal ∧ (plane.counting.start normal (.given home) s).1 = .ok () ∧
    (scanning.mode? .normal).bind (·.carrier) = some ⟨"wlan0", .wifi⟩ ∧
    s'.env.platform.failed = scanning.env.platform.failed ∧
    ∃ ifUp port, (Network.status "wlan0" (network s')).1 = .ok port ∧
      (ControlPlane.flags normal s').1 = .ok (ifUp, port.isLinkUp) ∧ ifUp = port.isUp := by
  intro s s'
  have hm : s.roster.modeOf normal = .ok .normal := by decide +kernel
  have hok : (plane.counting.start normal (.given home) s).1 = .ok () := by decide +kernel
  have hc : (scanning.mode? .normal).bind (·.carrier) = some ⟨"wlan0", .wifi⟩ := by decide +kernel
  have hheard : (network s).listeners.find? "wlan0" = some .controlPlane := by decide +kernel
  have hbefore : (Network.status "wlan0" (network s)).1 = .ok {} := by decide +kernel
  have hf : s'.env.platform.failed = scanning.env.platform.failed := by decide +kernel
  have hstation : ∀ event ∈ fading, InterfaceKind.wifi.reports event = true := by decide
  obtain ⟨-, ifUp, port, hport, hflags, hiff, -⟩ := run_flags (M := plane) rfl (reach_any switchOn counted) hm
    (Prod.ext hok rfl) hc hheard hbefore ⟨rfl, rfl⟩ hstation hf
  exact ⟨hm, hok, hc, hf, ifUp, port, hport, hflags, hiff.mpr (by decide)⟩

/-- The interface of a station that is connected goes down, and is still reported up. -/
theorem a_station_that_went_down_is_reported_up :
    let s' := [Event.stationConnected, .ifDown].foldl (plane.inject "wlan0") scanning
    (plane.counting.start normal (.given home) (plane.counting.run switchOn counted)).1 = .ok () ∧
    s'.env.platform.failed = scanning.env.platform.failed ∧
    (ControlPlane.flags normal s').1 = .ok (true, false) ∧
    (Network.status "wlan0" (network s')).1 = .ok { isUp := false, isLinkUp := false } := by
  decide +kernel

end Camera

end Connectivity
