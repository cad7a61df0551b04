/-
  Connectivity.Proofs.Ticks — whose event it is, and in which order ticks come.
  - `receive_framed`: an event of an interface leaves a mode that does not run there as it is; what is
    called, shown and told is the doing of the other mode alone.
  - `receive_tick_comm`: the ticks of two interfaces commute, since of the two modes only the normal one has
    anything to do every second, and it runs on one interface. So ticks in any order come to the same
    (`receiveAll_ticks_perm`).
  - `Commutes`: an operation that takes no notice of a part of the state. What a tick does takes none of what
    observers heard (`receive_tick_over`), so neither does it matter in which order they hear of it.
  - `handled_tickAll`: a tick of the board comes to the same in whatever order its interfaces are taken.
-/

import Connectivity.Proofs.Expiry
import Connectivity.Proofs.Quiet

namespace Connectivity

open Simulation

namespace ControlPlane

variable {σ τ : Type} {M : ControlPlane σ τ} {s : State σ τ} {r : Modes} {mode other : Mode} {name : String}

/-! ## Events of other interfaces -/

theorem react_of_not_accepts (hr : s.roster.modes = some r) (ha : (r.get mode).accepts name = false)
    (event : Event) : M.react name event mode s = s := by
  simp [react, State.mode?, hr, ha]

theorem giveBack_of_not_accepts (hr : s.roster.modes = some r) (ha : (r.get mode).accepts name = false) :
    M.giveBack name mode s = s := by
  simp [giveBack, State.mode?, hr, ha]

/-- An event of an interface on which no mode runs changes nothing whatever. -/
theorem receive_of_not_accepts (hr : s.roster.modes = some r) (ha : ∀ mode, (r.get mode).accepts name = false)
    (event : Event) : M.receive name event s = s := by
  by_cases he : event = .ifDownPre
  · subst he
    unfold receive
    simp only
    rw [giveBack_of_not_accepts hr (ha .normal), giveBack_of_not_accepts hr (ha .accessPoint)]
    simp [letThrough, hr, ha]
  · rw [receive_eq_react he, react_of_not_accepts hr (ha .normal), react_of_not_accepts hr (ha .accessPoint)]

/-- A mode that does not run on the interface has no part in its event. -/
theorem receive_framed (hr : s.roster.modes = some r) (ho : other ≠ mode)
    (ha : (r.get mode).accepts name = false) (event : Event) :
    (M.receive name event s).mode? mode = some (r.get mode) ∧
      (M.receive name event s).env = (M.reaction name event (r.get other) s.env).2 ∧
      (M.receive name event s).notices = noticesOf other (M.news name event (r.get other) s.env) ++ s.notices := by
  obtain ⟨r', hr', hreaction⟩ := modes_receive (M := M) hr name event
  obtain ⟨e, hmode⟩ := hreaction mode
  refine ⟨?_, receive_alone hr ho fun e => ?_⟩
  · rw [State.mode?, hr', Option.map_some, hmode, reaction_of_not_accepts ha]
  · rw [reaction_of_not_accepts ha, news_of_not_accepts ha]
    exact ⟨rfl, rfl⟩

/-! ## Ticks in any order -/

/-- The access point has nothing to do every second, and nothing to tell. -/
def Idle (s : State σ τ) : Prop :=
  ∀ r, s.roster.modes = some r → r.accessPoint.client = none ∧ r.accessPoint.told = r.accessPoint.standing

theorem idle_of_consistent (h : ∀ r, s.roster.modes = some r → r.Consistent none) : Idle s :=
  fun r hr => ⟨(h r hr).accessPoint, (h r hr).told .accessPoint⟩

theorem update_self (hr : s.roster.modes = some r) : s.update mode (r.get mode, s.env) = s := by
  simp only [State.update, Roster.setMode, hr, Option.map_some, Modes.set_get]
  rw [← hr]

theorem tell_self (hr : s.roster.modes = some r) (ht : (r.get mode).told = (r.get mode).standing) :
    s.tell mode = s := by
  have hrefresh : (r.get mode).refresh = (none, r.get mode) := by
    rw [ModeState.refresh, if_pos ht.symm]
  simp only [State.tell, State.mode?, hr, Option.map_some, hrefresh, Roster.setMode, Modes.set_get]
  rw [← hr]

theorem react_tick_of_no_client (hr : s.roster.modes = some r) (hc : (r.get mode).client = none)
    (ht : (r.get mode).told = (r.get mode).standing) : M.react name .tick mode s = s := by
  have hidle : Dispatch.answer M.platform M.policy.retryNanos .tick (r.get mode) s.env = (r.get mode, s.env) :=
    Link.tick_of_no_client M.policy.retryNanos hc
  unfold react State.mode?
  simp only [hr, Option.map_some, hidle]
  rw [update_self hr, tell_self hr ht, ite_self]

theorem carrierName?_reaction (name : String) (event : Event) (m : ModeState) (e : Env σ) :
    (M.reaction name event m e).1.carrierName? = m.carrierName? := by
  unfold reaction
  split
  · split
    · split <;> rfl
    · have hname := ModeState.carrierName?_of_fixed
        (Dispatch.fixed_answer M.platform M.policy.retryNanos event m e)
      simp only [ModeState.refresh_snd]
      exact hname
  · rfl

/-- A tick leaves the access point as it is, and the normal mode on its interface. -/
theorem roster_receive_tick (hr : s.roster.modes = some r) (hi : Idle s) (name : String) :
    ∃ m, (M.receive name .tick s).roster.modes = some { r with normal := m } ∧
      m.carrierName? = r.normal.carrierName? := by
  have hmodes : (M.react name .tick .normal s).roster.modes =
      some { r with normal := (M.reaction name .tick r.normal s.env).1 } :=
    congrArg Prod.fst (view_react hr (by decide) name .normal)
  obtain ⟨hc, ht⟩ := hi r hr
  have hreceive : M.receive name .tick s = M.react name .tick .normal s := react_tick_of_no_client hmodes hc ht
  exact ⟨_, hreceive ▸ hmodes, carrierName?_reaction name .tick r.normal s.env⟩

theorem Idle.receive_tick (hi : Idle s) (name : String) : Idle (M.receive name .tick s) := by
  cases hr : s.roster.modes with
  | none =>
    rw [receive_of_none hr]
    exact hi
  | some r =>
    obtain ⟨m, hm, -⟩ := roster_receive_tick (M := M) hr hi name
    intro r' hr'
    rw [hm] at hr'
    cases hr'
    exact hi r hr

/-- The normal mode does not run on an interface. -/
def Elsewhere (name : String) (s : State σ τ) : Prop :=
  ∀ r, s.roster.modes = some r → r.normal.carrierName? ≠ some name

theorem receive_tick_elsewhere (hi : Idle s) (hn : Elsewhere name s) : M.receive name .tick s = s := by
  cases hr : s.roster.modes with
  | none => exact receive_of_none hr name .tick
  | some r =>
    have ha : (r.get .normal).accepts name = false :=
      eq_false_of_ne_true fun ha => hn r hr (ModeState.accepts_iff.mp ha).2
    obtain ⟨hc, ht⟩ := hi r hr
    rw [receive_eq_react (by decide), react_of_not_accepts hr ha]
    exact react_tick_of_no_client hr hc ht

theorem Elsewhere.receive_tick (hi : Idle s) (hn : Elsewhere name s) (name' : String) :
    Elsewhere name (M.receive name' .tick s) := by
  cases hr : s.roster.modes with
  | none =>
    rw [receive_of_none hr]
    exact hn
  | some r =>
    obtain ⟨m, hm, hcarrier⟩ := roster_receive_tick (M := M) hr hi name'
    intro r' hr'
    rw [hm] at hr'
    cases hr'
    rw [hcarrier]
    exact hn r hr

theorem elsewhere_of_ne (s : State σ τ) {name name' : String} (hne : name ≠ name') :
    Elsewhere name s ∨ Elsewhere name' s := by
  by_cases h : Elsewhere name s
  · exact .inl h
  · obtain ⟨r, hr, hname⟩ : ∃ r, s.roster.modes = some r ∧ r.normal.carrierName? = some name := by
      simpa [Elsewhere] using h
    refine .inr fun r' hr' hname' => hne ?_
    rw [hr] at hr'
    cases hr'
    exact Option.some.inj (hname.symm.trans hname')

/-- Ticks of two interfaces commute: one of them is nobody's business, before the other and after it. -/
theorem receive_tick_comm (hi : Idle s) (name name' : String) :
    M.receive name' .tick (M.receive name .tick s) = M.receive name .tick (M.receive name' .tick s) := by
  have hskip {name name' : String} (hn : Elsewhere name s) :
      M.receive name .tick (M.receive name' .tick s) = M.receive name' .tick (M.receive name .tick s) := by
    rw [receive_tick_elsewhere hi hn, receive_tick_elsewhere (hi.receive_tick name') (hn.receive_tick hi name')]
  by_cases hne : name = name'
  · rw [hne]
  · rcases elsewhere_of_ne s hne with hn | hn
    · exact (hskip hn).symm
    · exact hskip hn

/-- A tick for each of the interfaces. -/
def ticks (names : List String) : Mail := names.map (·, .tick)

/-- Ticks that are handled in another order come to the same. -/
theorem receiveAll_ticks_perm {names names' : List String} (hp : names.Perm names') (hi : Idle s) :
    M.receiveAll (ticks names) s = M.receiveAll (ticks names') s := by
  induction hp generalizing s with
  | nil => rfl
  | cons name _ ih => exact ih (hi.receive_tick name)
  | swap name name' names =>
    exact congrArg (M.receiveAll (ticks names)) (receive_tick_comm hi name' name)
  | trans _ _ ih ih' => exact (ih hi).trans (ih' hi)

end ControlPlane

/-! ## What a tick takes no notice of -/

/-- An operation does the same where something that it neither reads nor writes has changed. -/
def Commutes {σ α : Type} (f : σ → σ) (a : σ → α × σ) : Prop := ∀ s, a (f s) = ((a s).1, f (a s).2)

/-- The operations that a tick may call take no notice of a change of the platform's state. -/
structure Platform.TickBlind {σ : Type} (P : Platform σ) (f : σ → σ) : Prop where
  setAddress : ∀ name a, Commutes f (P.setAddress name a)
  request : ∀ id, Commutes f (P.request id)
  renew : ∀ id mode, Commutes f (P.renew id mode)

/-- The surroundings with the platform's state changed. -/
def Env.over {σ : Type} (f : σ → σ) (e : Env σ) : Env σ := { e with platform := f e.platform }

section
variable {σ α : Type} {P : Platform σ} {f : σ → σ}

theorem Env.perform_over {a : Action σ α} (ha : Commutes f a) (e : Env σ) :
    (e.over f).perform a = ((e.perform a).1, (e.perform a).2.over f) := by
  simp only [Env.perform, Env.over, ha e.platform]

@[simp] theorem Env.over_signal (e : Env σ) (x : Signal) (on : Bool) :
    (e.signal x on).over f = (e.over f).signal x on := rfl

namespace Link

theorem commutes_becomeConnected (m : ModeState) : Commutes (Env.over f) (becomeConnected m) := by
  intro e
  unfold becomeConnected
  split <;> rfl

theorem commutes_attempt (hP : P.TickBlind f) (name : String) {ask : Action σ Grant} (hask : Commutes f ask) :
    Commutes (Env.over f) (attempt P name ask) := by
  intro e
  unfold attempt
  rw [Env.perform_over hask]
  cases e.perform ask with
  | mk answer e₁ =>
    cases answer with
    | error err => rfl
    | ok g =>
      simp only
      split
      · rfl
      · rw [Env.perform_over (hP.setAddress name g.addressing)]
        cases e₁.perform (P.setAddress name g.addressing) with
        | mk answer e₂ => cases answer <;> rfl

theorem commutes_askForLease (hP : P.TickBlind f) (name : String) (m : ModeState) :
    Commutes (Env.over f) (askForLease P name m) := by
  intro e
  unfold askForLease
  split
  · rfl
  · rename_i c _
    rw [commutes_attempt hP name (hP.request c.session) e]
    cases attempt P name (P.request c.session) e with
    | mk result e₁ =>
      cases result with
      | leased g timers => exact commutes_becomeConnected _ e₁
      | failed failure => rfl

theorem commutes_extendLease (hP : P.TickBlind f) (name : String) (mode : Renewal) (m : ModeState) :
    Commutes (Env.over f) (extendLease P name mode m) := by
  intro e
  unfold extendLease
  split
  · rfl
  · rename_i c _
    rw [commutes_attempt hP name (hP.renew c.session mode) e]
    cases attempt P name (P.renew c.session mode) e with
    | mk result e₁ => cases result <;> rfl

theorem commutes_startOver (hP : P.TickBlind f) (name : String) (m : ModeState) :
    Commutes (Env.over f) (startOver P name m) := by
  intro e
  unfold startOver
  rw [Env.perform_over (hP.setAddress name .unspecified)]
  simp only
  split
  · simp only [← Env.over_signal]
    exact commutes_askForLease hP name _ _
  · simp only [← Env.over_signal]
    exact commutes_askForLease hP name _ _

theorem commutes_tick (hP : P.TickBlind f) (retry : Nat) (m : ModeState) :
    Commutes (Env.over f) (tick P retry m) := by
  intro e
  have hnow : (e.over f).now = e.now := rfl
  unfold tick
  rw [hnow]
  split
  · rfl
  · split
    · split
      · rfl
      · split
        · exact commutes_askForLease hP _ m e
        · rfl
      · split
        · exact commutes_extendLease hP _ _ m e
        · rfl
      · exact commutes_startOver hP _ m e
    · rfl

end Link

end

namespace ControlPlane

variable {σ τ : Type} {M : ControlPlane σ τ} {f : σ → σ}

/-- The state with that of the platform changed. -/
def State.over (f : σ → σ) (s : State σ τ) : State σ τ := { s with env := s.env.over f }

theorem tell_over (s : State σ τ) (mode : Mode) : (s.over f).tell mode = (s.tell mode).over f := by
  have hmode : (s.over f).mode? mode = s.mode? mode := rfl
  unfold State.tell
  rw [hmode]
  split <;> rfl

theorem react_tick_over (hP : M.platform.TickBlind f) (name : String) (mode : Mode) (s : State σ τ) :
    M.react name .tick mode (s.over f) = (M.react name .tick mode s).over f := by
  have hmode : (s.over f).mode? mode = s.mode? mode := rfl
  unfold react
  rw [hmode]
  split
  · rfl
  · rename_i m _
    split
    · have htick : Dispatch.answer M.platform M.policy.retryNanos .tick m (s.over f).env = _ :=
        Link.commutes_tick hP M.policy.retryNanos m s.env
      rw [htick]
      exact tell_over (s.update mode (Link.tick M.platform M.policy.retryNanos m s.env)) mode
    · rfl

theorem receive_tick_over (hP : M.platform.TickBlind f) (name : String) (s : State σ τ) :
    M.receive name .tick (s.over f) = (M.receive name .tick s).over f := by
  have hnormal := react_tick_over hP name .normal s
  have hother := react_tick_over hP name .accessPoint (M.react name .tick .normal s)
  have hevent : Event.tick ≠ .ifDownPre := by decide
  rw [receive_eq_react hevent, receive_eq_react hevent, hnormal, hother]

theorem receiveAll_ticks_over (hP : M.platform.TickBlind f) (names : List String) (s : State σ τ) :
    M.receiveAll (ticks names) (s.over f) = (M.receiveAll (ticks names) s).over f := by
  induction names generalizing s with
  | nil => rfl
  | cons name names ih =>
    have hone : M.receiveAll (ticks (name :: names)) (s.over f) =
        M.receiveAll (ticks names) (M.receive name .tick (s.over f)) := rfl
    rw [hone, receive_tick_over hP, ih]
    rfl

end ControlPlane

/-! ## The board -/

namespace Simulation

/-- The network with something else heard by its observers. -/
def Network.overheard (heard : List (String × Event)) (n : Network) : Network := { n with heard }

/-- The board with something else heard by its observers. -/
def Board.overheard (heard : List (String × Event)) (b : Board) : Board :=
  { b with inner := b.inner.overheard heard }

namespace Network

variable (heard : List (String × Event))

theorem commutes_setAddress (name : String) (a : Addressing) : Commutes (overheard heard) (setAddress name a) := by
  intro n
  simp only [setAddress, begin, note, overheard, andThen, onDevice, setDevice]
  cases n.failures.find? .setAddress with
  | some err => rfl
  | none =>
    simp only
    cases n.devices.find? name <;> rfl

theorem commutes_answer : Commutes (overheard heard) answer := by
  intro n
  cases hs : n.script <;> simp only [answer, overheard, hs]

theorem commutes_inSession {α : Type} {run : String → Action Network α}
    (hrun : ∀ name, Commutes (overheard heard) (run name)) (id : SessionId) :
    Commutes (overheard heard) (inSession id run) := by
  intro n
  have hsession : (n.overheard heard).sessions = n.sessions := rfl
  unfold inSession
  rw [hsession]
  split
  · exact hrun _ n
  · rfl

theorem commutes_request (id : SessionId) : Commutes (overheard heard) (request id) :=
  commutes_inSession heard (fun name n => commutes_answer heard (n.note (.request name))) id

theorem commutes_renew (id : SessionId) (mode : Renewal) : Commutes (overheard heard) (renew id mode) :=
  commutes_inSession heard (fun name n => commutes_answer heard (n.note (.renew name mode))) id

end Network

theorem Commutes.behind {α : Type} {heard : List (String × Event)} {a : Action Network α}
    (ha : Commutes (Network.overheard heard) a) (k : Method) :
    Commutes (Board.overheard heard) (Faulty.behind k a) := by
  intro b
  have hqueue : (b.overheard heard).queue k = b.queue k := rfl
  have hinner : a (b.overheard heard).inner = _ := ha b.inner
  unfold Faulty.behind
  rw [hqueue, hinner]
  split <;> rfl

theorem Board.tickBlind (heard : List (String × Event)) : Board.platform.TickBlind (Board.overheard heard) where
  setAddress name a := Commutes.behind (Network.commutes_setAddress heard name a) .setAddress
  request id := Commutes.behind (Network.commutes_request heard id) .request
  renew id mode := Commutes.behind (Network.commutes_renew heard id mode) .renew

/-- Those of the interfaces whose events go to a listener. -/
def Network.heardBy (who : Listener) (n : Network) (names : List String) : List String :=
  names.filter fun name => n.listeners.find? name = some who

open ControlPlane in
/-- The control plane gets a tick for each of the interfaces that it listens to, and observers hear the rest,
    the latest first. -/
theorem tickAll_eq (names : List String) (e : Env Board) :
    tickAll names e =
      (ticks (e.platform.inner.heardBy .controlPlane names),
        e.over (Board.overheard
          ((ticks (e.platform.inner.heardBy .observer names)).reverse ++ e.platform.inner.heard))) := by
  induction names generalizing e with
  | nil => rfl
  | cons name names ih =>
    unfold tickAll Network.deliver
    cases hl : e.platform.inner.listeners.find? name with
    | none =>
      have h1 : onNetwork (fun _ => e.platform.inner) e = e := rfl
      simp [h1, ih, Network.heardBy, hl]
    | some who =>
      cases who with
      | controlPlane =>
        have h1 : onNetwork (fun _ => e.platform.inner) e = e := rfl
        simp [h1, ih, Network.heardBy, hl, ticks]
      | observer =>
        simp [ih, Network.heardBy, hl, ticks, onNetwork, Env.over, Board.overheard, Network.overheard]

end Simulation

namespace ControlPlane

variable {τ : Type} {M : ControlPlane Board τ} {s : State Board τ}

/-- The control plane after it has handled what a step of the world came to. -/
def handled (M : ControlPlane Board τ) (x : Mail × Env Board) (s : State Board τ) : State Board τ :=
  M.receiveAll x.1 { s with env := x.2 }

/-- Taken in another order, the interfaces of a tick make no difference, but for the order in which observers
    heard of it. -/
theorem handled_tickAll (hM : M.platform = Board.platform) (hi : Idle s) {names : List String}
    (hp : names.Perm s.env.platform.inner.listened) :
    ∃ heard, heard.Perm (M.handled (tick s.env) s).env.platform.inner.heard ∧
      M.handled (tickAll names s.env) s = (M.handled (tick s.env) s).over (Board.overheard heard) := by
  have hblind (heard : List (String × Event)) : M.platform.TickBlind (Board.overheard heard) :=
    hM ▸ Board.tickBlind heard
  have hhandled (names : List String) : M.handled (tickAll names s.env) s =
      (M.receiveAll (ticks (s.env.platform.inner.heardBy .controlPlane names)) s).over
        (Board.overheard
          ((ticks (s.env.platform.inner.heardBy .observer names)).reverse ++ s.env.platform.inner.heard)) := by
    rw [handled, tickAll_eq]
    exact receiveAll_ticks_over (hblind _) _ s
  have hsame : M.receiveAll (ticks (s.env.platform.inner.heardBy .controlPlane names)) s =
      M.receiveAll (ticks (s.env.platform.inner.heardBy .controlPlane s.env.platform.inner.listened)) s :=
    receiveAll_ticks_perm (hp.filter _) hi
  have htick := hhandled s.env.platform.inner.listened
  refine ⟨(ticks (s.env.platform.inner.heardBy .observer names)).reverse ++ s.env.platform.inner.heard, ?_, ?_⟩
  · rw [tick, htick]
    exact ((List.reverse_perm _).trans (((hp.filter _).map _).trans (List.reverse_perm _).symm)).append_right _
  · rw [tick, htick, hhandled names, hsame]
    rfl

/-- In every state between `setUp` and `dissolve`, on any platform: an event of an interface leaves a mode
    that is disconnected or uses another interface as it is, and platform, lights and callbacks get from it
    what the other mode's answer alone gives them, which is nothing if that one does not run on the interface
    either. And in every state that a control plane on a simulated board can reach, a tick of the board leads to
    the same state whatever order its interfaces are taken in; only the observers on it heard of the tick in
    that order. -/
theorem events_framed :
    (∀ {σ τ : Type} {M : ControlPlane σ τ} {s : State σ τ} {r : Modes} {mode other : Mode} {name : String},
      s.roster.modes = some r → other ≠ mode →
      (r.get mode).status = .disconnected ∨ (r.get mode).carrierName? ≠ some name →
      ∀ event, (M.receive name event s).mode? mode = some (r.get mode) ∧
        (M.receive name event s).env = (M.reaction name event (r.get other) s.env).2 ∧
        (M.receive name event s).notices =
          noticesOf other (M.news name event (r.get other) s.env) ++ s.notices ∧
        ((r.get other).status = .disconnected ∨ (r.get other).carrierName? ≠ some name →
          M.receive name event s = s)) ∧
    ∀ {τ : Type} {M : ControlPlane Board τ} {env : Env Board} {store : τ} {s : State Board τ},
      M.platform = Board.platform → M.Reach (fun _ _ => True) (M.initial env store) s →
      ∀ {names : List String}, names.Perm s.env.platform.inner.listened →
        ∃ heard, heard.Perm (M.handled (tick s.env) s).env.platform.inner.heard ∧
          M.handled (tickAll names s.env) s = (M.handled (tick s.env) s).over (Board.overheard heard) := by
  have habsent {m : ModeState} {name : String} (h : m.status = .disconnected ∨ m.carrierName? ≠ some name) :
      m.accepts name = false := by
    refine eq_false_of_ne_true fun ha => ?_
    obtain ⟨hs, hn⟩ := ModeState.accepts_iff.mp ha
    exact h.elim hs fun hne => hne hn
  refine ⟨fun {σ τ M s r mode other name} hr ho ha event => ?_, fun {τ M env store s} hM hs {names} hp => ?_⟩
  · obtain ⟨hmode, henv, hnotices⟩ := receive_framed (M := M) hr ho (habsent ha) event
    refine ⟨hmode, henv, hnotices, fun hother => receive_of_not_accepts hr (fun mode' => ?_) event⟩
    by_cases h : mode' = mode
    · exact h ▸ habsent ha
    · obtain rfl : mode' = other := by
        cases mode <;> cases mode' <;> cases other <;> simp_all
      exact habsent hother
  · exact handled_tickAll hM (idle_of_consistent fun r hr => hs.consistent rfl hr) hp

end ControlPlane

namespace Camera

open ControlPlane

/-- The lease is due for its renewal, and the interfaces are ticked in the order opposite to that in which the
    control plane asked for their events. -/
theorem due_framed :
    let s := plane.run (bothUp ++ [.outside id id (1800 * second)]) off
    s.env.platform.inner.listened = ["eth0", "wlan0"] ∧
    (∃ r, s.roster.modes = some r ∧ r.accessPoint.carrierName? = some "wlan0" ∧
      (plane.receive "eth0" .tick s).mode? .accessPoint = some (r.get .accessPoint) ∧
      (plane.receive "eth0" .tick s).env = (plane.reaction "eth0" .tick (r.get .normal) s.env).2 ∧
      (plane.receive "eth0" .tick s).notices =
        noticesOf .normal (plane.news "eth0" .tick (r.get .normal) s.env) ++ s.notices) ∧
    (plane.handled (tick s.env) s).env.platform.inner.calls ≠ s.env.platform.inner.calls ∧
    ∃ heard, heard.Perm (plane.handled (tick s.env) s).env.platform.inner.heard ∧
      plane.handled (tickAll ["wlan0", "eth0"] s.env) s =
        (plane.handled (tick s.env) s).over (Board.overheard heard) := by
  intro s
  have hm : s.roster.modes.any (fun r => decide (r.accessPoint.carrierName? = some "wlan0")) = true := by
    decide +kernel
  obtain ⟨r, hr, hd⟩ := (Option.any_eq_true _ _).mp hm
  have hname : (r.get .accessPoint).carrierName? = some "wlan0" := of_decide_eq_true hd
  have hlistened : s.env.platform.inner.listened = ["eth0", "wlan0"] := by decide +kernel
  have hs : plane.Reach (fun _ _ => True) off s := reach_any _ off
  have hother : (r.get .accessPoint).carrierName? ≠ some "eth0" := by
    rw [hname]
    decide
  obtain ⟨hmode, henv, hnotices, -⟩ :=
    events_framed.1 (M := plane) hr (show Mode.normal ≠ .accessPoint by decide) (.inr hother) .tick
  refine ⟨hlistened, ⟨r, hr, hname, hmode, henv, hnotices⟩, by decide +kernel, events_framed.2 rfl hs ?_⟩
  rw [hlistened]
  exact List.Perm.swap "eth0" "wlan0" []

end Camera

end Connectivity
