/-
  Connectivity.Proofs.StopOutcomes — how a stop ends, and what it does on the way.
  - `withMode_controlled`: a call for control, between moves, runs on the state as it is, and the guard that was
    taken leaves no trace.
  - `stop_eq`, `tearDown_eq`: the stop of an interface decides by the platform's answer, and what is left
    of the connection by what the platform says of the interface after all was given back.
  - `calls_tearDown`, `calls_stopped`: the calls on the way, from which a session is given back once.
  - `reach_stop_outcome`: so it is in every run, whatever the platform answers.
-/

import Connectivity.Proofs.FailedStarts
import Connectivity.Proofs.Quiet

namespace Connectivity

variable {σ τ α : Type}

/-! ## Links -/

/-- The calls that give back a session, the latest first. -/
def ModeState.handedBack (m : ModeState) : List PlatformCall :=
  match m.client with
  | some c => [.close c.session, .release c.session]
  | none => []

/-- A mode as the platform's stop finds it, without its session if the event ahead of the teardown was heard. -/
def ModeState.forewarned (m : ModeState) (heard : Bool) : ModeState := if heard then { m with client := none } else m

@[simp] theorem ModeState.forewarned_carrier (m : ModeState) (heard : Bool) :
    (m.forewarned heard).carrier = m.carrier := by
  cases heard <;> rfl

@[simp] theorem ModeState.forewarned_serverRunning (m : ModeState) (heard : Bool) :
    (m.forewarned heard).serverRunning = m.serverRunning := by
  cases heard <;> rfl

/-- The platform stopped an interface, or says that it was not running. -/
def Stops (answer : Except PlatformError Unit) : Prop := ∀ err, answer = .error err → err.isStopped = true

namespace Link

variable (P : Platform σ)

/-- The surroundings after a connection gave back the DHCP server and the lease. -/
def relieved (name : String) (m : ModeState) (e : Env σ) : Env σ :=
  let e := if m.serverRunning then (e.perform (P.stopServer name)).2 else e
  match m.client with
  | some c => surrender P c.session e
  | none => e

theorem tearDown_eq (c : Carrier) (m : ModeState) (e : Env σ) :
    tearDown P c m e =
      let x := isDown P c.name (relieved P c.name m e)
      ({ m with
          serverRunning := false, client := none, address := .unspecified, clients := 0, apStarted := false
          ifUp := !x.1 && m.ifUp, linkUp := !x.1 && m.linkUp
          status := if x.1 then .disconnected else .disconnecting },
        (x.2.signal (connectingSignal c.kind) false).signal (connectedSignal m.mode c.kind) false) := by
  cases hc : m.client <;> simp only [tearDown, relieved, hc]
  all_goals
    generalize isDown P c.name _ = x
    obtain ⟨down, e'⟩ := x
    cases down <;> rfl

theorem isDown_snd (name : String) (e : Env σ) : (isDown P name e).2 = (e.perform (P.status name)).2 := by
  unfold isDown
  split <;> rename_i hx <;> rw [hx]

/-- An interface counts as down if the platform says so, or does not say. -/
theorem isDown_eq_true {name : String} {e : Env σ} :
    (isDown P name e).1 = true ↔ ∀ status, (e.perform (P.status name)).1 = .ok status → status.isUp = false := by
  unfold isDown
  split <;> rename_i hx <;> simp [hx]

/-- What is left of a connection that was torn down, once its callback was told. -/
theorem tearDown_left (c : Carrier) (m : ModeState) (e : Env σ) :
    let m' := (tearDown P c m e).1.refresh.2
    let answer := ((relieved P c.name m e).perform (P.status c.name)).1
    m'.address = .unspecified ∧ m'.client = none ∧ m'.clients = 0 ∧ m'.apStarted = false ∧ m'.serverRunning = false ∧
      m'.told = .disconnected ∧
      ((∀ status, answer = .ok status → status.isUp = false) →
        m'.status = .disconnected ∧ m'.ifUp = false ∧ m'.linkUp = false) ∧
      ((∃ status, answer = .ok status ∧ status.isUp = true) → m'.status = .disconnecting) := by
  intro m' answer
  have hdown : (isDown P c.name (relieved P c.name m e)).1 = true ↔ _ := isDown_eq_true P
  simp only [m', tearDown_eq, ModeState.refresh_snd, true_and]
  generalize (isDown P c.name (relieved P c.name m e)).1 = down at hdown ⊢
  refine ⟨by cases down <;> rfl, fun hsaid => ?_, ?_⟩
  · rw [hdown.mpr hsaid]
    exact ⟨rfl, rfl, rfl⟩
  · rintro ⟨status, hanswer, hup⟩
    cases down with
    | false => rfl
    | true => cases (hdown.mp rfl status hanswer).symm.trans hup

theorem stop_eq {c : Carrier} {m : ModeState} (hc : m.carrier = some c) (e : Env σ) :
    (stop P m e = (.ok (), tearDown P c m (e.perform (P.stop c.name)).2) ∧ Stops (e.perform (P.stop c.name)).1) ∨
    ∃ err, (stop P m e).1 = .error (.platform err) ∧ ¬ Stops (e.perform (P.stop c.name)).1 := by
  simp only [stop, hc]
  split <;> rename_i hx <;> rw [hx]
  · exact .inl ⟨rfl, nofun⟩
  · rename_i err _
    split
    · rename_i hs
      exact .inl ⟨rfl, fun _ herr => Except.error.inj herr ▸ hs⟩
    · rename_i hs
      exact .inr ⟨err, rfl, fun h => hs (h err rfl)⟩

theorem calls_relieved (P : Platform σ) (name : String) (m : ModeState) (e : Env (Recorded σ)) :
    (relieved P.recorded name m e).calls =
      m.handedBack ++ ((if m.serverRunning then [.stopServer name] else []) ++ e.calls) := by
  unfold relieved ModeState.handedBack
  cases m.client <;> cases m.serverRunning <;> rfl

/-- An interface that was stopped costs the calls that give back what was held on it, and then a question. -/
theorem calls_tearDown (P : Platform σ) (c : Carrier) (m : ModeState) (e : Env (Recorded σ)) :
    (tearDown P.recorded c m e).2.calls =
      .status c.name :: (m.handedBack ++ ((if m.serverRunning then [.stopServer c.name] else []) ++ e.calls)) := by
  rw [tearDown_eq, ← calls_relieved P c.name m e]
  show (isDown P.recorded c.name _).2.calls = _
  rw [isDown_snd]
  rfl

end Link

namespace ControlPlane

open Roster

variable {M : ControlPlane σ τ} {s s' : State σ τ} {r : Modes} {mode : Mode} {h : Handle}

/-! ## Calls for control -/

/-- Between moves a call through a handle for control is refused while another caller holds the lock, and then
    nothing changes. -/
theorem withMode_locked (ha : Accounted s.roster []) (hh : s.roster.Controls mode h) (hlocked : s.roster.locked = true)
    (run : ModeState → Operation σ τ α) : withMode h true run s = (.error .resourceLockTimeout, s) := by
  have hgranted := hh.enter ha nofun
  unfold withMode withHandle
  cases hx : s.roster.enter h true with
  | mk answer roster =>
    rw [hx] at hgranted
    obtain rfl : answer = .ok ⟨h, mode, .control, true⟩ := hgranted
    obtain ⟨_, _, -, -, -, -, hroster⟩ := enter_ok hx
    have hsame : roster.locked = true := by rw [hroster, hlocked]
    simp only [lock, hsame, if_true, leave_enter hx fun _ => ha.count_lt (by decide)]

/-- Else it runs on the state as it is, and what it makes of the modes is all that becomes of the roster. -/
theorem withMode_controlled (ha : Accounted s.roster []) (hr : s.roster.modes = some r)
    (hh : s.roster.Controls mode h) (hfree : s.roster.locked = false) (run : ModeState → Operation σ τ α) :
    ∃ roster, roster.lock = .ok r ∧ roster.contended = s.roster.contended ∧
      ∀ answer s', run (r.get mode) { s with roster } = (answer, s') → ∀ modes, s'.roster = { roster with modes } →
        withMode h true run s = (answer, { s' with roster := { s.roster with modes } }) := by
  have hgranted := hh.enter ha nofun
  unfold withMode withHandle
  cases hx : s.roster.enter h true with
  | mk answer roster =>
    rw [hx] at hgranted
    obtain rfl : answer = .ok ⟨h, mode, .control, true⟩ := hgranted
    obtain ⟨_, _, -, -, -, -, hroster⟩ := enter_ok hx
    have hlock : roster.lock = .ok r := by simp [lock, hroster, hfree, hr]
    refine ⟨roster, hlock, by rw [hroster], fun answer s' hrun modes hs' => ?_⟩
    simp only [hlock, hrun, hs', leave_entered hx (fun _ => ha.count_lt (by decide)) modes]

theorem roster_tell_update (hr : s.roster.modes = some r) (mode : Mode) (x : ModeState × Env σ) :
    ((s.update mode x).tell mode).roster = { s.roster with modes := some (r.set mode x.1.refresh.2) } := by
  simp [State.tell, State.update, State.mode?, setMode, hr]

/-! ## Announcements -/

theorem env_announceStop (hr : s.roster.modes = some r) (name : String) :
    (M.announceStop name s).env =
      let e := (s.env.perform (M.platform.announceStop name)).2
      if M.hears name s.env then
        (M.reaction name .ifDownPre r.accessPoint (M.reaction name .ifDownPre r.normal e).2).2
      else e := by
  rw [announceStop_eq]
  generalize (s.env.perform (M.platform.announceStop name)).2 = e
  have hv := view_receive (M := M) (s := { s with env := e }) hr name .ifDownPre
  simp only
  split
  · exact congrArg Prod.snd hv
  · rfl

/-- An announcement does what the modes and their surroundings say, whatever handles there are. -/
theorem env_announceStop_congr (hr : s.roster.modes = some r) (hr' : s'.roster.modes = some r) (he : s'.env = s.env)
    (name : String) : (M.announceStop name s').env = (M.announceStop name s).env := by
  rw [env_announceStop hr', env_announceStop hr, he]

/-! ## Stops -/

variable (M) in
/-- What the platform answers to the stop of an announced interface, and the surroundings that it leaves. -/
def stopAnswer (c : Carrier) (s : State σ τ) : Except PlatformError Unit × Env σ :=
  (M.announceStop c.name s).env.perform (M.platform.stop c.name)

variable (M) in
/-- What the platform then says of the interface, once the mode gave back what it held. -/
def lastStatus (c : Carrier) (m : ModeState) (s : State σ τ) : Except PlatformError InterfaceState :=
  ((Link.relieved M.platform c.name (m.forewarned (M.hears c.name s.env)) (M.stopAnswer c s).2).perform
    (M.platform.status c.name)).1

theorem get_heard {name : String} (haccepts : (r.get mode).accepts name = true) (heard : Bool) :
    (if heard then r.givenBack name else r).get mode = (r.get mode).forewarned heard := by
  cases heard with
  | false => rfl
  | true =>
    rw [if_pos rfl, Modes.get_givenBack, ModeState.givenBack, if_pos haccepts]
    rfl

theorem announced_of_carrier {m : ModeState} {c : Carrier} (hc : m.carrier = some c) (s : State σ τ) :
    M.announced m s = M.announceStop c.name s := by
  simp only [announced, ModeState.carrierName?_of_carrier hc]

/-- A stop of a mode that runs prepares its interface and takes it down, if no other caller holds the lock. -/
theorem stop_running (ha : Accounted s.roster []) (hl : r.Labelled) (hr : s.roster.modes = some r)
    (hrun : (r.get mode).status.isRunning = true) (hh : s.roster.Controls mode h) (hfree : s.roster.locked = false) :
    ∃ roster, roster.lock = .ok r ∧ roster.contended = s.roster.contended ∧
      ∀ answer s', M.takeDown mode (M.prepareStop (r.get mode) { s with roster }) = (answer, s') →
        ∀ modes, s'.roster = { roster with modes } →
          M.stop h s = (answer, { s' with roster := { s.roster with modes } }) := by
  obtain ⟨roster, hlock, hsame, hruns⟩ := withMode_controlled ha hr hh hfree _
  refine ⟨roster, hlock, hsame, fun answer s' hdown => hruns answer s' ?_⟩
  simp only [if_pos hrun, hl mode]
  exact hdown

/-- If nobody else holds the lock or takes it meanwhile, a stop of a mode that runs takes the interface down, after
    the event ahead of the teardown if that arrives. -/
theorem stop_controlled {c : Carrier} (ha : Accounted s.roster []) (hl : r.Labelled) (hr : s.roster.modes = some r)
    (hrun : (r.get mode).status.isRunning = true) (hc : (r.get mode).carrier = some c)
    (hh : s.roster.Controls mode h) (hfree : s.roster.locked = false) (halone : s.roster.contended = false) :
    ∃ (r₁ : Modes) (x : Except Error Unit × ModeState × Env σ),
      x = Link.stop M.platform ((r.get mode).forewarned (M.hears c.name s.env)) (M.announceStop c.name s).env ∧
      (M.stop h s).1 = x.1 ∧ (M.stop h s).2.env = x.2.2 ∧
        (M.stop h s).2.roster = { s.roster with modes := some (r₁.set mode x.2.1.refresh.2) } := by
  obtain ⟨roster, hlock, hsame, hruns⟩ := stop_running (M := M) ha hl hr hrun hh hfree
  refine ⟨if M.hears c.name s.env then r.givenBack c.name else r, _, rfl, ?_⟩
  have haccepts : (r.get mode).accepts c.name = true :=
    ModeState.accepts_iff.mpr ⟨Status.ne_of_isRunning hrun, ModeState.carrierName?_of_carrier hc⟩
  rw [← get_heard haccepts]
  generalize hr₁ : (if M.hears c.name s.env then r.givenBack c.name else r) = r₁
  generalize hx : Link.stop M.platform (r₁.get mode) (M.announceStop c.name s).env = x
  obtain ⟨hlocked, hmodes⟩ := lock_eq_ok hlock
  have hroster : (M.announceStop c.name { s with roster }).roster = { roster with modes := some r₁ } := by
    rw [roster_announceStop, ← hr₁]
    simp only
    split
    · rw [hmodes]
      rfl
    · rw [← hmodes]
  have hroster : (M.prepareStop (r.get mode) { s with roster }).roster = { roster with modes := some r₁ } := by
    rw [roster_prepareStop, announced_of_carrier hc, hroster]
    exact yield_of_not_contended (hsame.trans halone)
  have henv : (M.prepareStop (r.get mode) { s with roster }).env = (M.announceStop c.name s).env := by
    rw [env_prepareStop, announced_of_carrier hc]
    exact env_announceStop_congr hr (show ({ s with roster } : State σ τ).roster.modes = some r from hmodes) rfl c.name
  generalize M.prepareStop (r.get mode) { s with roster } = t at hruns hroster henv
  have hmodes₁ : t.roster.modes = some r₁ := congrArg Roster.modes hroster
  have hdown : M.takeDown mode t = (x.1, (t.update mode x.2).tell mode) := by
    have hlock₁ : t.roster.lock = .ok r₁ := by
      rw [hroster]
      simp [lock, hlocked]
    simp only [takeDown, hlock₁, henv, hx]
  have hstop : M.stop h s = _ := hruns _ _ hdown (some (r₁.set mode x.2.1.refresh.2))
    (by rw [roster_tell_update hmodes₁, hroster])
  rw [hstop]
  exact ⟨rfl, congrArg Prod.snd (view_tell_update hmodes₁ mode x.2), rfl⟩

/-- Where another caller takes the lock while a stop waits, the interface is announced and the session given back
    if that is heard of, but nothing is asked to stop. -/
theorem stop_overtaken {c : Carrier} (ha : Accounted s.roster []) (hr : s.roster.modes = some r)
    (hrun : (r.get mode).status.isRunning = true) (hc : (r.get mode).carrier = some c)
    (hh : s.roster.Controls mode h) (hfree : s.roster.locked = false) (hovertaken : s.roster.contended = true) :
    (M.stop h s).1 = .error .resourceLockTimeout ∧
      (M.stop h s).2.mode? mode = some ((r.get mode).forewarned (M.hears c.name s.env)) ∧
      (M.stop h s).2.env = (M.announceStop c.name s).env := by
  rcases withMode_granted (hh.enter ha nofun) hr _ with ⟨hlocked, -⟩ | ⟨s', hs', ⟨hfree', hsame⟩, hres, hv⟩
  · cases hfree.symm.trans hlocked
  have hres : (M.stop h s).1 = _ := hres
  have hv : (M.stop h s).2.view = _ := hv
  have hr' : s'.roster.modes = some r := (congrArg Prod.fst hs').trans hr
  have he' : s'.env = s.env := congrArg Prod.snd hs'
  have haccepts : (r.get mode).accepts c.name = true :=
    ModeState.accepts_iff.mpr ⟨Status.ne_of_isRunning hrun, ModeState.carrierName?_of_carrier hc⟩
  have hroster := roster_announceStop (M := M) c.name s'
  rw [he', hr', Option.map_some] at hroster
  have hlock := lock_prepareStop (M := M) (m := r.get mode) hr' hfree'
  rw [hsame, hovertaken, if_pos rfl] at hlock
  simp only [hrun, if_true, takeDown, hlock] at hres hv
  rw [view_prepareStop, announced_of_carrier hc] at hv
  refine ⟨hres, ?_, (congrArg Prod.snd hv).trans (env_announceStop_congr hr hr' he' c.name)⟩
  have hmodes : (M.stop h s).2.roster.modes = _ := congrArg Prod.fst hv
  rw [State.mode?, hmodes, State.view, hroster, ← get_heard haccepts]
  split
  · rfl
  · rw [hr']
    rfl

/-- So it fails with the platform's stop, or that counts as one, and the connection is torn down. -/
theorem stop_decided {c : Carrier} (ha : Accounted s.roster []) (hl : r.Labelled) (hr : s.roster.modes = some r)
    (hrun : (r.get mode).status.isRunning = true) (hc : (r.get mode).carrier = some c)
    (hh : s.roster.Controls mode h) (hfree : s.roster.locked = false) (halone : s.roster.contended = false) :
    (¬ Stops (M.stopAnswer c s).1 ∧ (M.stop h s).1 ≠ .ok ()) ∨
    Stops (M.stopAnswer c s).1 ∧ (M.stop h s).1 = .ok () ∧
      ∃ (r₁ : Modes) (x : ModeState × Env σ),
        x = Link.tearDown M.platform c ((r.get mode).forewarned (M.hears c.name s.env)) (M.stopAnswer c s).2 ∧
        (M.stop h s).2.env = x.2 ∧
        (M.stop h s).2.roster = { s.roster with modes := some (r₁.set mode x.1.refresh.2) } := by
  obtain ⟨r₁, x, hx, hres, henv, hroster⟩ := stop_controlled ha hl hr hrun hc hh hfree halone
  have hc₁ : ((r.get mode).forewarned (M.hears c.name s.env)).carrier = some c := by
    rw [ModeState.forewarned_carrier, hc]
  rcases Link.stop_eq M.platform hc₁ (M.announceStop c.name s).env with ⟨hdown, hstops⟩ | ⟨err, herr, hrefused⟩
  · rw [hdown] at hx
    subst hx
    exact .inr ⟨hstops, hres, r₁, _, rfl, henv, hroster⟩
  · rw [← hx, ← hres] at herr
    exact .inl ⟨hrefused, by rw [herr]; nofun⟩

/-- The calls of a stop that succeeds, those before the platform's stop apart from those after it. -/
theorem calls_stopped {s : State (Recorded σ) τ} (hr : s.roster.modes = some r) (hap : r.accessPoint.client = none)
    (c : Carrier) (m : ModeState) :
    (Link.tearDown M.recorded.platform c m
        ((M.recorded.announceStop c.name s).env.perform (M.recorded.platform.stop c.name)).2).2.calls =
      (.status c.name :: (m.handedBack ++ if m.serverRunning then [.stopServer c.name] else [])) ++
        .stop c.name :: ((if M.recorded.hears c.name s.env then r.normal.surrendered c.name else []) ++
          [.announceStop c.name] ++ s.env.calls) := by
  have hstop : ((M.recorded.announceStop c.name s).env.perform (M.recorded.platform.stop c.name)).2.calls =
      .stop c.name :: (M.recorded.announceStop c.name s).env.calls := rfl
  have hplatform : M.recorded.platform = M.platform.recorded := rfl
  rw [hplatform] at hstop ⊢
  rw [Link.calls_tearDown, hstop, calls_announceStop hr hap]
  simp only [List.cons_append, List.append_assoc, List.nil_append]

/-- A session is given back once: before the platform's stop if that was heard of, else after it. -/
theorem handedBack_once {name : String} {client : Client} {m : ModeState} (hclient : m.client = some client)
    (haccepts : m.accepts name = true) (heard : Bool) {before after : List PlatformCall}
    (hbefore : before = (if heard then m.surrendered name else []) ++ [.announceStop name])
    (hafter : after = .status name ::
      ((m.forewarned heard).handedBack ++ if (m.forewarned heard).serverRunning then [.stopServer name] else [])) :
    (after ++ before).count (.release client.session) = 1 ∧ (after ++ before).count (.close client.session) = 1 ∧
      (heard = true → .release client.session ∈ before ∧ .close client.session ∈ before) := by
  rw [ModeState.forewarned_serverRunning] at hafter
  subst hbefore hafter
  cases heard <;> cases m.serverRunning <;>
    simp [ModeState.forewarned, ModeState.handedBack, ModeState.surrendered, hclient, haccepts]

/-- A mode that does not run is not stopped, which costs nothing. -/
theorem stop_not_running (ha : Accounted s.roster []) (hl : r.Labelled) (hr : s.roster.modes = some r)
    (hstopped : (r.get mode).status.isRunning = false) (hfree : s.roster.locked = false)
    (hh : s.roster.Controls mode h) : M.stop h s = (.error (.alreadyRunning mode (r.get mode).status), s) := by
  obtain ⟨roster, hlock, -, hruns⟩ := withMode_controlled ha hr hh hfree _
  have hmodes := (lock_eq_ok hlock).2
  have hstop : M.stop h s = _ := hruns (.error (.alreadyRunning mode (r.get mode).status)) { s with roster }
    (by simp only [hstopped, hl mode]; rfl) (some r) (by rw [← hmodes])
  rw [hstop, ← hr]

/-- After a stop that succeeded nothing can be stopped until the mode is started again. -/
theorem stop_again {s₀ : State σ τ} (hn : s₀.roster.modes = none) (hs : M.Reach (fun _ _ => True) s₀ s)
    (hr : s.roster.modes = some r) (hstopped : (r.get mode).Stopped) (hs' : M.Reach (M.Unstarted mode) s s')
    {r' : Modes} (hr' : s'.roster.modes = some r') (ha : Accounted s'.roster []) (hfree : s'.roster.locked = false)
    (hh : s'.roster.Controls mode h) : M.stop h s' = (.error (.alreadyRunning mode (r'.get mode).status), s') := by
  obtain ⟨r'', hr'', hstopped', -⟩ := reach_stopped hn hs hr hstopped hs'
  obtain rfl : r'' = r' := Option.some.inj (hr''.symm.trans hr')
  have hl := (hs.trans (hs'.mono fun _ _ _ => trivial)).labelled hn
  exact stop_not_running ha (hl r'' hr') hr' hstopped'.not_running hfree hh

/-! ## Runs -/

/-- The outcome of a stop of a mode that runs on an interface, through a handle. -/
structure StopOutcome (M : ControlPlane σ τ) (s : State (Recorded σ) τ) (m : ModeState) (mode : Mode) (c : Carrier)
    (h : Handle) : Prop where
  refused : s.roster.locked = true → M.recorded.stop h s = (.error .resourceLockTimeout, s)
  /-- Where another caller takes the lock while the stop waits, the platform is not asked to stop anything, and the
      mode is left with what it had, but for a session that was given back. -/
  overtaken : s.roster.locked = false → s.roster.contended = true →
    (M.recorded.stop h s).1 = .error .resourceLockTimeout ∧
      (M.recorded.stop h s).2.mode? mode = some (m.forewarned (M.recorded.hears c.name s.env)) ∧
      ∃ calls, (M.recorded.stop h s).2.env.calls = calls ++ s.env.calls ∧ ∀ name, .stop name ∉ calls
  succeeds : s.roster.locked = false → s.roster.contended = false →
    ((M.recorded.stop h s).1 = .ok () ↔ Stops (M.recorded.stopAnswer c s).1)
  /-- The mode holds nothing, and its callback knows. -/
  ended : (M.recorded.stop h s).1 = .ok () →
    ∃ m', (M.recorded.stop h s).2.mode? mode = some m' ∧
      m'.address = .unspecified ∧ m'.client = none ∧ m'.clients = 0 ∧ m'.apStarted = false ∧
      m'.serverRunning = false ∧ m'.told = .disconnected ∧
      ((∀ status, M.recorded.lastStatus c m s = .ok status → status.isUp = false) →
        m'.status = .disconnected ∧ m'.ifUp = false ∧ m'.linkUp = false) ∧
      ((∃ status, M.recorded.lastStatus c m s = .ok status ∧ status.isUp = true) → m'.status = .disconnecting)
  /-- A session is given back once, and ahead of the platform's stop if that was heard of in time. -/
  once : (M.recorded.stop h s).1 = .ok () →
    ∃ before after, (M.recorded.stop h s).2.env.calls = after ++ .stop c.name :: (before ++ s.env.calls) ∧
      ∀ client, m.client = some client →
        (after ++ before).count (.release client.session) = 1 ∧
        (after ++ before).count (.close client.session) = 1 ∧
        (M.recorded.hears c.name s.env = true →
          .release client.session ∈ before ∧ .close client.session ∈ before)
  /-- There is nothing more to stop, now and until the mode is started again. -/
  again : (M.recorded.stop h s).1 = .ok () →
    (M.recorded.stop h s).2.roster.Controls mode h ∧ (M.recorded.stop h s).2.roster.locked = false ∧
      ∀ s' m' h', M.recorded.Reach (M.recorded.Unstarted mode) (M.recorded.stop h s).2 s' →
        s'.mode? mode = some m' → s'.roster.Controls mode h' → s'.roster.locked = false →
        M.recorded.stop h' s' = (.error (.alreadyRunning mode m'.status), s')

/-- Of a stop that fails only the failure is to be told. -/
theorem StopOutcome.of_failed {s : State (Recorded σ) τ} {m : ModeState} {c : Carrier}
    (hfailed : (M.recorded.stop h s).1 ≠ .ok ())
    (hrefused : s.roster.locked = true → M.recorded.stop h s = (.error .resourceLockTimeout, s))
    (hovertaken : s.roster.locked = false → s.roster.contended = true →
      (M.recorded.stop h s).1 = .error .resourceLockTimeout ∧
        (M.recorded.stop h s).2.mode? mode = some (m.forewarned (M.recorded.hears c.name s.env)) ∧
        ∃ calls, (M.recorded.stop h s).2.env.calls = calls ++ s.env.calls ∧ ∀ name, .stop name ∉ calls)
    (hstops : s.roster.locked = false → s.roster.contended = false → ¬ Stops (M.recorded.stopAnswer c s).1) :
    M.StopOutcome s m mode c h where
  refused := hrefused
  overtaken := hovertaken
  succeeds hfree halone := iff_of_false hfailed (hstops hfree halone)
  ended hok := absurd hok hfailed
  once hok := absurd hok hfailed
  again hok := absurd hok hfailed

/-- In whatever state a run is, let a mode run, and let it be stopped through a handle for its control. If no
    other caller holds the lock or takes it while the stop waits, the stop succeeds exactly if the platform
    stops the interface or says that it was not running. Then the mode has no address, no session, no clients
    and no server, and its callback was told so; it is disconnected with both flags down if the platform, asked
    after all was given back, says that the interface is down, or does not say, and else it is disconnecting. A
    session that it held was released once and closed once, before the platform's stop if the event ahead of the
    teardown arrived in time. From then on, until the mode is started again, a stop is refused as of a mode that
    does not run, and changes nothing and calls nothing. -/
theorem reach_stop_outcome {env : Env (Recorded σ)} {store : τ} {s : State (Recorded σ) τ}
    (hs : M.recorded.Reach (fun _ _ => True) (M.recorded.initial env store) s) (hr : s.roster.modes = some r)
    (hrun : (r.get mode).status.isRunning = true) (hh : s.roster.Controls mode h) :
    ∃ c, (r.get mode).carrier = some c ∧ M.StopOutcome s (r.get mode) mode c h := by
  have ha := hs.commanded.1
  have hl : r.Labelled := hs.labelled rfl r hr
  have hcarried := reach_carried rfl hs hr mode
  obtain ⟨c, hc⟩ := Option.isSome_iff_exists.mp (hcarried (Status.ne_of_isRunning hrun))
  have haccepts : (r.get mode).accepts c.name = true :=
    ModeState.accepts_iff.mpr ⟨Status.ne_of_isRunning hrun, ModeState.carrierName?_of_carrier hc⟩
  have hcons := hs.consistent rfl hr
  refine ⟨c, hc, ?_⟩
  cases hlocked : s.roster.locked with
  | true =>
    have hstop : M.recorded.stop h s = _ := withMode_locked ha hh hlocked _
    exact .of_failed (by rw [hstop]; nofun) (fun _ => hstop) (fun hfree => by cases hlocked.symm.trans hfree)
      (fun hfree => by cases hlocked.symm.trans hfree)
  | false =>
  have hheld : s.roster.locked = true → M.recorded.stop h s = (.error .resourceLockTimeout, s) :=
    fun hheld => by cases hlocked.symm.trans hheld
  cases hcontended : s.roster.contended with
  | true =>
    obtain ⟨hstop, hmode, henv⟩ := stop_overtaken (M := M.recorded) ha hr hrun hc hh hlocked hcontended
    have hcalls := (congrArg Env.calls henv).trans (calls_announceStop (M := M) hr hcons.accessPoint c.name)
    rw [← List.singleton_append, ← List.append_assoc] at hcalls
    refine .of_failed (by rw [hstop]; nofun) hheld (fun _ _ => ⟨hstop, hmode, _, hcalls, fun name => ?_⟩)
      (fun _ halone => by cases hcontended.symm.trans halone)
    cases M.recorded.hears c.name s.env <;> cases hclient : r.normal.client <;>
      simp [ModeState.surrendered, hclient]
  | false =>
  have hovertaken (p : Prop) (htaken : s.roster.contended = true) : p := by cases hcontended.symm.trans htaken
  rcases stop_decided (M := M.recorded) ha hl hr hrun hc hh hlocked hcontended with
    ⟨hrefused, hfailed⟩ | ⟨hstops, hok, r₁, x, hx, henv, hroster⟩
  · exact .of_failed hfailed hheld (fun _ => hovertaken _) fun _ _ => hrefused
  refine ⟨hheld, fun _ => hovertaken _, fun _ _ => iff_of_true hok hstops, fun _ => ?_, fun _ => ?_, fun _ => ?_⟩
  · have hleft := Link.tearDown_left M.recorded.platform c
      ((r.get mode).forewarned (M.recorded.hears c.name s.env)) (M.recorded.stopAnswer c s).2
    rw [← hx] at hleft
    exact ⟨x.1.refresh.2, by simp [State.mode?, hroster], hleft⟩
  · refine ⟨_, _, (congrArg Env.calls henv).trans (hx ▸ calls_stopped hr hcons.accessPoint c _),
      fun client hclient => ?_⟩
    -- The access point never has a session.
    cases mode with
    | normal => exact handedBack_once hclient haccepts _ rfl rfl
    | accessPoint => cases hcons.accessPoint.symm.trans hclient
  · have hagain : M.recorded.Reach (fun _ _ => True) (M.recorded.initial env store) (M.recorded.stop h s).2 :=
      .step (.stop h) hs trivial
    obtain ⟨r', hr', hstopped⟩ := stopped_stop (hs.labelled rfl) hr hh.modeOf hcarried hok
    refine ⟨hh.of_slots ((congrArg Roster.slots hroster).trans rfl), (congrArg Roster.locked hroster).trans hlocked, ?_⟩
    intro s' m' h' hs' hm' hh' hfree'
    obtain ⟨r'', hr'', rfl⟩ := Option.map_eq_some_iff.mp hm'
    have ha' := (hagain.trans (hs'.mono fun _ _ _ => trivial)).commanded.1
    exact stop_again rfl hagain hr' hstopped hs' hr'' ha' hfree' hh'

end ControlPlane

namespace Camera

open Simulation ControlPlane

/-- The normal mode has a lease. -/
def joined : State (Recorded Board) Shelf := plane.recorded.run join recording

theorem joined_stop_outcome :
    ∃ r, joined.roster.modes = some r ∧ (r.get .normal).status.isRunning = true ∧
      (r.get .normal).client.isSome = true ∧ joined.roster.Controls .normal normal ∧
      (plane.recorded.stop normal joined).1 = .ok () ∧
      ∃ c, (r.get .normal).carrier = some c ∧ plane.StopOutcome joined (r.get .normal) .normal c normal := by
  have hm : joined.roster.modes.any (fun r => r.normal.status.isRunning && r.normal.client.isSome) = true := by
    decide +kernel
  obtain ⟨r, hr, hd⟩ := (Option.any_eq_true _ _).mp hm
  obtain ⟨hrun, hheld⟩ := Bool.and_eq_true_iff.mp hd
  have hlive : joined.roster.live? normal = some { mode := .normal, access := .control } := by decide +kernel
  have hh : joined.roster.Controls .normal normal := ⟨_, hlive, rfl, rfl⟩
  exact ⟨r, hr, hrun, hheld, hh, by decide +kernel, reach_stop_outcome (reach_any join recording) hr hrun hh⟩

end Camera

end Connectivity
