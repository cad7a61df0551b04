/-
  Connectivity.Proofs.Serving — an access point serves once it is heard to be up.
  - `heralded`: whether an interface reported its access point up while that had no client. Reported at
    another time it is not heard (`a_client_ahead_of_its_access_point_keeps_it_down`).
  - `apReady_serves`: what is done about it, if no call fails; `unheralded_answer`: what is done about any
    other event.
  - `Serving`: so after any events the access point is up if it was heralded, with the address of its
    parameters and a server for that address.
-/

import Connectivity.Proofs.Audits
import Connectivity.Proofs.Clients
import Connectivity.Proofs.Resumption
import Connectivity.Proofs.Setups

namespace Connectivity

variable {σ τ : Type}

/-! ## Histories -/

/-- Whether an interface reported its access point up while that had no client, in a history of events, the
    latest first. -/
def heralded (name : String) : List (String × Event) → Bool
  | [] => false
  | (name', event) :: history =>
    name' = name && event = .apStarted && tally name history = 0 || heralded name history

/-- An access point that serves if it was heralded and no call has failed since `base` calls had, with the
    address of the parameters it was started with. -/
structure Serving (name : String) (p : Parameters) (base : Nat) (history : List (String × Event)) (m : ModeState)
    (e : Env (Recorded (Audited σ))) : Prop where
  carrier : m.carrierName? = some name
  saved : m.saved = some p
  running : m.status.isRunning = true
  counted : m.Counted history
  started : m.apStarted = heralded name history
  failed : base ≤ e.failed
  serves : m.apStarted = true → e.failed = base →
    staticAddressing p.accessPoint.ip = .ok m.address ∧ m.serverRunning = true ∧
      serverOn name e.calls = some ⟨m.address.address, m.address.netmask⟩

section
variable {name : String} {p : Parameters} {base : Nat} {history : List (String × Event)} {m m' : ModeState}
  {e e' : Env (Recorded (Audited σ))}

/-- Events of other interfaces, others of its own, and a second report herald nothing. -/
theorem heralded_cons {name' : String} {event : Event}
    (h : name' = name → event = .apStarted → tally name history = 0 → heralded name history = true) :
    heralded name ((name', event) :: history) = heralded name history := by
  simp only [heralded, Bool.or_eq_right_iff_imp, Bool.and_eq_true, decide_eq_true_eq]
  exact fun ⟨⟨hname, hevent⟩, h0⟩ => h hname hevent h0

theorem heralded_apStarted (h : tally name history = 0) : heralded name ((name, .apStarted) :: history) = true := by
  simp [heralded, h]

/-- An access point without clients waits for them. -/
theorem Serving.connecting_iff (h : Serving name p base history m e) :
    m.status = .connecting ↔ tally name history = 0 := by
  obtain ⟨hattended, name', hname', hclients⟩ := h.counted
  obtain rfl : name' = name := Option.some.inj (hname'.symm.trans h.carrier)
  rw [← hclients]
  constructor
  · intro hs
    by_contra h0
    have hconnected := hattended.mpr (Nat.pos_of_ne_zero h0)
    rw [hs] at hconnected
    cases hconnected
  · intro h0
    refine (Status.isRunning_iff.mp h.running).resolve_right fun hs => ?_
    have hpos := hattended.mp hs
    omega

/-- The surroundings change, but not in what the access point relies on. -/
theorem Serving.spares (h : Serving name p base history m e) (he : e.Spares name e') :
    Serving name p base history m e' := by
  have hle := he.failed
  have hbase := h.failed
  refine { h with failed := Nat.le_trans hbase hle, serves := fun hup hsame => ?_ }
  obtain ⟨ha, hr, hs⟩ := h.serves hup (by omega)
  exact ⟨ha, hr, (he.server (by omega)).trans hs⟩

/-- The access point comes up, and serves if no call fails. -/
theorem Serving.up {history' : List (String × Event)} (h : Serving name p base history m e)
    (hcarrier : m'.carrierName? = m.carrierName?) (hsaved : m'.saved = m.saved)
    (hrun : m'.status.isRunning = true) (hcounted : m'.Counted history')
    (hher : heralded name history' = true) (hup : m'.apStarted = true) (hle : e.failed ≤ e'.failed)
    (hserves : e'.failed = e.failed →
      staticAddressing p.accessPoint.ip = .ok m'.address ∧ m'.serverRunning = true ∧
        serverOn name e'.calls = some ⟨m'.address.address, m'.address.netmask⟩) :
    Serving name p base history' m' e' := by
  have hbase := h.failed
  exact ⟨hcarrier.trans h.carrier, hsaved.trans h.saved, hrun, hcounted, hup.trans hher.symm,
    Nat.le_trans hbase hle, fun _ hsame => hserves (by omega)⟩

/-- Neither the surroundings nor the access point change in what it serves with. -/
theorem Serving.same {history' : List (String × Event)} (h : Serving name p base history m e)
    (hcarrier : m'.carrierName? = m.carrierName?) (hsaved : m'.saved = m.saved)
    (hrun : m'.status.isRunning = true) (hcounted : m'.Counted history')
    (hher : heralded name history' = heralded name history)
    (hserves : m'.apStarted = m.apStarted ∧ m'.address = m.address ∧ m'.serverRunning = m.serverRunning)
    (he : e'.platform = e.platform) : Serving name p base history' m' e' := by
  obtain ⟨hup, haddress, hserver⟩ := hserves
  have hfailed : e'.failed = e.failed := congrArg (·.inner.failed) he
  have hcalls : e'.calls = e.calls := congrArg Recorded.calls he
  refine ⟨hcarrier.trans h.carrier, hsaved.trans h.saved, hrun, hcounted, ?_, ?_, ?_⟩
  · rw [hup, h.started, hher]
  · rw [hfailed]
    exact h.failed
  · rw [hup, hfailed, haddress, hserver, hcalls]
    exact h.serves

end

/-! ## Events -/

section
variable {P : Platform σ} {m : ModeState} {e : Env (Recorded (Audited σ))} {name : String} {a : Addressing}

namespace Link

/-- A static address is set if no call fails. -/
theorem setStatic_audited {texts : AddressTexts} {address? : Option Addressing} {e' : Env (Recorded (Audited σ))}
    (ha : staticAddressing texts = .ok a) (hx : setStatic P.audited.recorded name texts e = (address?, e')) :
    e.failed ≤ e'.failed ∧ (e'.failed = e.failed → address? = some a) := by
  rcases setStatic_cases P.audited.recorded name ha e with
    ⟨err, e₁, hm, heq⟩ | ⟨e₁, hm, ⟨err, e₂, hs, heq⟩ | ⟨e₂, hs, heq⟩⟩ <;> cases heq.symm.trans hx
  · have herr := Env.failed_of_error hm
    exact ⟨by omega, fun hsame => by omega⟩
  · have hok := Env.failed_of_ok hm
    have herr := Env.failed_of_error hs
    exact ⟨by omega, fun hsame => by omega⟩
  · have hok := Env.failed_of_ok hm
    have hok' := Env.failed_of_ok hs
    exact ⟨by omega, fun _ => rfl⟩

/-- An access point that is heard to be up has an address and a server, if no call fails. -/
theorem apReady_serves (hdown : m.apStarted = false) (hname : m.carrierName? = some name)
    (ha : staticAddressing m.parameters.accessPoint.ip = .ok a) :
    let x := apReady P.audited.recorded m e
    x.1.apStarted = true ∧ e.failed ≤ x.2.failed ∧
      (x.2.failed = e.failed →
        x.1.address = a ∧ x.1.serverRunning = true ∧ serverOn name x.2.calls = some ⟨a.address, a.netmask⟩) := by
  have hip : { m with ifUp := true, apStarted := true }.parameters = m.parameters := rfl
  unfold apReady
  simp only [hdown, Bool.false_eq_true, if_false, hname, hip]
  cases hx : setStatic P.audited.recorded name m.parameters.accessPoint.ip (e.signal .apStarted true) with
  | mk address? e₁ =>
    obtain ⟨hle, hset⟩ : e.failed ≤ e₁.failed ∧ (e₁.failed = e.failed → address? = some a) :=
      setStatic_audited (e := e.signal .apStarted true) ha hx
    cases address? with
    | none =>
      refine ⟨rfl, hle, fun hsame => ?_⟩
      cases hset hsame
    | some address =>
      simp only [startServer]
      cases hy : e₁.perform (P.audited.recorded.startServer name ⟨address.address, address.netmask⟩) with
      | mk answer e₂ =>
        cases answer with
        | error err =>
          have herr := Env.failed_of_error hy
          refine ⟨rfl, ?_, fun hsame => ?_⟩
          · show e.failed ≤ e₂.failed
            omega
          · have hsame : e₂.failed = e.failed := hsame
            omega
        | ok u =>
          have hok := Env.failed_of_ok hy
          refine ⟨rfl, hok ▸ hle, fun hsame => ?_⟩
          have hsame : e₂.failed = e.failed := hsame
          obtain rfl : address = a := Option.some.inj (hset (hok.symm.trans hsame))
          refine ⟨rfl, rfl, ?_⟩
          rw [Env.calls_of_perform hy]
          exact serverOn_startServer name _ _

end Link

namespace Dispatch

/-- An event that does not herald the access point changes nothing of what it serves with. -/
theorem unheralded_answer (retry : Nat) {event : Event} (hm : m.mode = .accessPoint) (hc : m.client = none)
    (hr : m.status.isRunning = true) (hn : event = .apStarted → m.status = .connecting → m.apStarted = true) :
    let x := answer P.audited.recorded retry event m e
    x.1.apStarted = m.apStarted ∧ x.1.address = m.address ∧ x.1.serverRunning = m.serverRunning ∧
      x.2.platform = e.platform := by
  have hkind (event : Event) :
      byKind P.audited.recorded event m e = accessPoint P.audited.recorded event m e := by
    unfold byKind
    rw [hm]
  have hnd : ¬ m.status = .disconnecting := by
    intro hd
    rw [hd] at hr
    cases hr
  unfold answer
  split
  · unfold Link.tick
    rw [hc]
    split <;> exact ⟨rfl, rfl, rfl, rfl⟩
  · rw [if_neg hnd, hkind]
    exact ⟨rfl, rfl, rfl, rfl⟩
  · rw [hkind]
    unfold accessPoint
    split
    · split
      · rename_i hs
        unfold Link.apReady
        rw [if_pos (hn rfl hs)]
        exact ⟨rfl, rfl, rfl, rfl⟩
      · exact ⟨rfl, rfl, rfl, rfl⟩
    · simp only [Link.clientJoined]
      split <;> exact ⟨rfl, rfl, rfl, rfl⟩
    · simp only [Link.clientLeft]
      (repeat' split) <;> exact ⟨rfl, rfl, rfl, rfl⟩
    · exact ⟨rfl, rfl, rfl, rfl⟩

end Dispatch

end

namespace ControlPlane

variable {M : ControlPlane σ τ} {name : String} {p : Parameters} {base : Nat} {history : List (String × Event)}

/-- What the access point makes of an event. -/
theorem serving_reaction {m : ModeState} {e : Env (Recorded (Audited σ))} {a : Addressing}
    (hm : m.mode = .accessPoint) (hc : m.client = none) (hp : staticAddressing p.accessPoint.ip = .ok a)
    (h : Serving name p base history m e) (name' : String) (event : Event) :
    Serving name p base ((name', event) :: history) (M.audited.reaction name' event m e).1
      (M.audited.reaction name' event m e).2 := by
  have hcounted := counted_reaction (M := M.audited) hm hc (fun _ => h.counted) name' event e
  by_cases ha : m.accepts name' = true
  · obtain ⟨-, hname⟩ := ModeState.accepts_iff.mp ha
    obtain rfl : name' = name := Option.some.inj (hname.symm.trans h.carrier)
    unfold reaction at hcounted ⊢
    rw [if_pos ha] at hcounted ⊢
    by_cases hpre : event = .ifDownPre
    · subst hpre
      rw [if_pos rfl, hc] at hcounted ⊢
      exact h.same rfl rfl h.running (hcounted h.running) (heralded_cons nofun) ⟨rfl, rfl, rfl⟩ rfl
    · rw [if_neg hpre] at hcounted ⊢
      have hfixed := Dispatch.fixed_answer M.audited.platform M.audited.policy.retryNanos event m e
      have hrun : (Dispatch.answer M.audited.platform M.audited.policy.retryNanos event m e).1.status.isRunning =
          true := (Dispatch.deeds_answer M.audited.policy.retryNanos event h.running).isRunning h.running
      have hcarrier := ModeState.carrierName?_of_fixed hfixed
      have hsaved := ModeState.saved_of_fixed hfixed
      simp only [ModeState.refresh_snd] at hcounted ⊢
      by_cases hher : event = .apStarted ∧ m.status = .connecting ∧ m.apStarted = false
      · obtain ⟨rfl, hs, hdown⟩ := hher
        have hanswer : Dispatch.answer M.audited.platform M.audited.policy.retryNanos .apStarted m e =
            Link.apReady M.platform.audited.recorded m e := by
          simp only [Dispatch.answer, Dispatch.byKind, hm, Dispatch.accessPoint, if_pos hs]
          rfl
        have hip : m.parameters = p := by simp [ModeState.parameters, h.saved]
        rw [← hip] at hp
        obtain ⟨hup, hle, hserves⟩ := Link.apReady_serves (P := M.platform) (e := e) hdown h.carrier hp
        rw [hanswer] at hrun hcounted hcarrier hsaved ⊢
        have hher := heralded_apStarted (h.connecting_iff.mp hs)
        refine h.up hcarrier hsaved hrun (hcounted hrun) hher hup hle fun hsame => ?_
        obtain ⟨haddress, hserver, hcalls⟩ := hserves hsame
        rw [haddress, ← hip]
        exact ⟨hp, hserver, hcalls⟩
      · have hn (hev : event = .apStarted) (hs : m.status = .connecting) : m.apStarted = true := by
          by_contra hdown
          exact hher ⟨hev, hs, eq_false_of_ne_true hdown⟩
        obtain ⟨hup, haddress, hserver, hplatform⟩ := Dispatch.unheralded_answer (P := M.platform) (e := e)
          M.policy.retryNanos hm hc h.running hn
        refine h.same hcarrier hsaved hrun (hcounted hrun) (heralded_cons fun _ hev h0 => ?_)
          ⟨hup, haddress, hserver⟩ hplatform
        rw [← h.started]
        exact hn hev (h.connecting_iff.mpr h0)
  · rw [reaction_of_not_accepts (eq_false_of_ne_true ha)] at hcounted ⊢
    refine h.same rfl rfl h.running (hcounted h.running) (heralded_cons fun hsame => ?_) ⟨rfl, rfl, rfl⟩ rfl
    subst hsame
    exact absurd (ModeState.accepts_iff.mpr ⟨Status.ne_of_isRunning h.running, h.carrier⟩) ha

/-! ## Moves -/

/-- Events arrive and time passes; nobody but the control plane calls the platform. -/
def Waiting (s : State (Recorded (Audited σ)) τ) : Move (Recorded (Audited σ)) τ → Prop
  | .event _ _ => True
  | .outside platform _ _ =>
    (platform s.env.platform).calls = s.env.calls ∧ (platform s.env.platform).inner.failed = s.env.failed
  | _ => False

theorem waiting_time (s : State (Recorded (Audited σ)) τ) (store : τ → τ) (now : Nat) :
    Waiting s (.outside id store now) := ⟨rfl, rfl⟩

theorem serving_receive {s : State (Recorded (Audited σ)) τ} {r : Modes} {a : Addressing} (hl : r.Labelled)
    (hcons : r.Consistent none) (hr : s.roster.modes = some r) (hp : staticAddressing p.accessPoint.ip = .ok a)
    (h : Serving name p base history r.accessPoint s.env) (name' : String) (event : Event) :
    ∃ r', (M.audited.receive name' event s).roster.modes = some r' ∧
      Serving name p base ((name', event) :: history) r'.accessPoint (M.audited.receive name' event s).env := by
  have hv := view_receive (M := M.audited) hr name' event
  have hmodes : (M.audited.receive name' event s).roster.modes = _ := congrArg Prod.fst hv
  have henv : (M.audited.receive name' event s).env = _ := congrArg Prod.snd hv
  refine ⟨_, hmodes, ?_⟩
  rw [henv]
  have hnormal : s.env.Spares name (M.audited.reaction name' event r.normal s.env).2 :=
    spares_reaction (hl .normal) hcons.normal.no_client name' event s.env
  exact serving_reaction (hl .accessPoint) hcons.accessPoint hp (h.spares hnormal) name' event

theorem serving_step {s : State (Recorded (Audited σ)) τ} {r : Modes} {a : Addressing} (hl : r.Labelled)
    (hcons : r.Consistent none) (hr : s.roster.modes = some r) (hp : staticAddressing p.accessPoint.ip = .ok a)
    (h : Serving name p base history r.accessPoint s.env) {mv : Move (Recorded (Audited σ)) τ}
    (hok : Waiting s mv) :
    let y := M.audited.chronicle .accessPoint (s, history) mv
    ∃ r', y.1.roster.modes = some r' ∧ Serving name p base y.2 r'.accessPoint y.1.env := by
  cases mv with
  | event name' event => exact serving_receive hl hcons hr hp h name' event
  | outside platform store now =>
    obtain ⟨hcalls, hfailed⟩ := hok
    refine ⟨r, hr, h.spares ⟨Nat.le_of_eq hfailed.symm, fun _ => ?_⟩⟩
    exact congrArg (serverOn name) hcalls
  | _ => cases hok

theorem serving_run {env : Env (Recorded (Audited σ))} {store : τ} {a : Addressing}
    {mvs : List (Move (Recorded (Audited σ)) τ)} {x : State (Recorded (Audited σ)) τ × List (String × Event)}
    (hs : M.audited.Reach (fun _ _ => True) (M.audited.initial env store) x.1)
    (hok : M.audited.Allowed Waiting x.1 mvs) (hp : staticAddressing p.accessPoint.ip = .ok a)
    (h : ∃ r, x.1.roster.modes = some r ∧ Serving name p base x.2 r.accessPoint x.1.env) :
    let y := mvs.foldl (M.audited.chronicle .accessPoint) x
    ∃ r, y.1.roster.modes = some r ∧ Serving name p base y.2 r.accessPoint y.1.env := by
  induction mvs generalizing x with
  | nil => exact h
  | cons mv mvs ih =>
    obtain ⟨r, hr, h⟩ := h
    obtain ⟨hmv, hok⟩ := hok
    exact ih (x := M.audited.chronicle .accessPoint x mv) (.step mv hs trivial) hok
      (serving_step (hs.labelled rfl r hr) (hs.consistent rfl hr) hr hp h hmv)

/-! ## Runs -/

/-- A start that succeeds has begun its mode, with the parameters that it was given if it was given any. -/
theorem start_begun {M : ControlPlane σ τ} {s : State σ τ} (hl : ∀ r, s.roster.modes = some r → r.Labelled)
    {h : Handle} {source : ParameterSource} {mode : Mode} (hm : s.roster.modeOf h = .ok mode)
    (hok : (M.start h source s).1 = .ok ()) :
    ∃ (r : Modes) (c : Carrier) (p : Parameters),
      (M.start h source s).2.roster.modes = some (r.set mode ((r.get mode).begun c p)) ∧
        ∀ q, source = .given q → p = q := by
  rcases start_cases hl h source with ⟨err, he, -⟩ | ⟨mode', r, m, hm', -, -, hv, ⟨⟨err, he⟩, -⟩ | ⟨-, c, p, rfl, hq⟩⟩
  · rw [hok] at he
    cases he
  · rw [hok] at he
    cases he
  · obtain rfl : mode = mode' := Except.ok.inj (hm.symm.trans hm')
    exact ⟨r, c, p, hv, hq⟩

theorem Reach.started {M : ControlPlane σ τ} {s₀ s s₁ : State σ τ} {h : Handle} {source : ParameterSource}
    {answer : Except Error Unit} (hs : M.Reach (fun _ _ => True) s₀ s) (hok : M.start h source s = (answer, s₁)) :
    M.Reach (fun _ _ => True) s₀ s₁ := by
  have hstep : M.step (.start h source) s = s₁ := congrArg Prod.snd hok
  exact hstep ▸ .step (.start h source) hs trivial

/-- Let an access point be started, from whatever state and source, and let events arrive on whatever
    interfaces and in whatever order, and time pass. The access point is up if and only if its interface
    reported it up while it had no client. From then on, whatever came before or after, and unless a call
    failed since the start, it has the static address of the parameters that it was started with, and a server
    for that address runs on its interface. -/
theorem run_serving {env : Env (Recorded (Audited σ))} {store : τ} {s s₁ : State (Recorded (Audited σ)) τ}
    {h : Handle} {source : ParameterSource} {mvs : List (Move (Recorded (Audited σ)) τ)}
    (hs : M.audited.Reach (fun _ _ => True) (M.audited.initial env store) s)
    (hm : s.roster.modeOf h = .ok .accessPoint) (hok : M.audited.start h source s = (.ok (), s₁))
    (hmvs : M.audited.Allowed Waiting s₁ mvs) :
    let x := mvs.foldl (M.audited.chronicle .accessPoint) (s₁, [])
    x.1 = M.audited.run mvs s₁ ∧
    ∃ r name p, x.1.roster.modes = some r ∧ r.accessPoint.carrierName? = some name ∧
      r.accessPoint.saved = some p ∧ (∀ q, source = .given q → p = q) ∧
      (r.accessPoint.apStarted = true ↔ heralded name x.2 = true) ∧
      (heralded name x.2 = true → x.1.env.failed = s₁.env.failed →
        staticAddressing p.accessPoint.ip = .ok r.accessPoint.address ∧ r.accessPoint.serverRunning = true ∧
          serverOn name x.1.env.calls =
            some ⟨r.accessPoint.address.address, r.accessPoint.address.netmask⟩) := by
  intro x
  refine ⟨chronicle_fst .accessPoint mvs _, ?_⟩
  have hs₁ := hs.started hok
  obtain ⟨r₀, c, p, hr₁, hgiven⟩ := start_begun (hs.labelled rfl) hm (congrArg Prod.fst hok)
  rw [hok] at hr₁
  have hbegun : Serving c.name p s₁.env.failed [] ((r₀.get .accessPoint).begun c p) s₁.env := by
    have hcounted := counted_begun (r₀.get .accessPoint) c p
    rw [ModeState.begun, ModeState.refresh_snd] at hcounted ⊢
    exact ⟨rfl, rfl, rfl, hcounted, rfl, Nat.le_refl _, fun hup => by cases hup⟩
  -- What the start was made with can be set up, so it has an address.
  have hsaved : ((r₀.set .accessPoint ((r₀.get .accessPoint).begun c p)).get .accessPoint).saved = some p :=
    hbegun.saved
  obtain ⟨kind, i, setup, hstart⟩ := hs₁.resumable rfl hr₁ .accessPoint p hsaved
  have hvalid := hstart.valid
  rw [hs₁.labelled rfl _ hr₁ .accessPoint] at hvalid
  obtain ⟨a, ha⟩ := staticAddressing_of_valid hvalid
  obtain ⟨r, hr, hserving⟩ := serving_run (x := (s₁, [])) hs₁ hmvs ha ⟨_, hr₁, hbegun⟩
  refine ⟨r, c.name, p, hr, hserving.carrier, hserving.saved, hgiven, ?_, fun hher hsame => ?_⟩
  · rw [hserving.started]
  · exact hserving.serves (hserving.started.trans hher) hsame

end ControlPlane

namespace Camera

open Simulation ControlPlane

/-- A client comes before the access point is reported up, and with that report nothing is done; it leaves,
    the access point is reported up again, and the client comes back. -/
def welcome : List (Move (Recorded (Audited Board)) Shelf) :=
  [.event "wlan0" .apClientJoined, .event "wlan0" .apStarted, .event "wlan0" .apClientLeft,
    .event "wlan0" .apStarted, .event "wlan0" .apClientJoined, .outside id id second, .event "wlan0" .tick]

theorem a_client_ahead_of_its_access_point_keeps_it_down :
    let s := plane.audited.run switchOn auditing
    (plane.audited.start accessPoint (.given hotspot) s).1 = .ok () ∧
    ¬ ∀ mvs : List (Move (Recorded (Audited Board)) Shelf),
      (∀ mv ∈ mvs, ∃ event, mv = .event "wlan0" event ∧
        (event = .apStarted ∨ event = .apClientJoined ∨ event = .apClientLeft ∨ event = .tick)) →
      .event "wlan0" .apStarted ∈ mvs →
      let s' := plane.audited.run mvs (plane.audited.start accessPoint (.given hotspot) s).2
      s'.env.failed = s.env.failed →
        ∃ m, s'.mode? .accessPoint = some m ∧ m.apStarted = true ∧ m.serverRunning = true := by
  intro s
  refine ⟨by decide +kernel, fun hserves => ?_⟩
  obtain ⟨m, hm, hup, -⟩ := hserves [.event "wlan0" .apClientJoined, .event "wlan0" .apStarted]
    (by simp) (by simp) (by decide +kernel)
  have hdown : ((plane.audited.run [.event "wlan0" .apClientJoined, .event "wlan0" .apStarted]
      (plane.audited.start accessPoint (.given hotspot) s).2).mode? .accessPoint).all (fun m => !m.apStarted) =
      true := by decide +kernel
  rw [hm, Option.all_some, hup] at hdown
  cases hdown

theorem welcome_serving :
    let s := plane.audited.run join auditing
    let s₁ := (plane.audited.start accessPoint (.given hotspot) s).2
    let x := welcome.foldl (plane.audited.chronicle .accessPoint) (s₁, [])
    heralded "wlan0" x.2 = true ∧ x.1.env.failed = s₁.env.failed ∧ x.1 = plane.audited.run welcome s₁ ∧
    ∃ r, x.1.roster.modes = some r ∧ r.accessPoint.saved = some hotspot ∧ r.accessPoint.apStarted = true ∧
      staticAddressing hotspot.accessPoint.ip = .ok r.accessPoint.address ∧ r.accessPoint.serverRunning = true ∧
      serverOn "wlan0" x.1.env.calls =
        some ⟨r.accessPoint.address.address, r.accessPoint.address.netmask⟩ := by
  intro s s₁ x
  have hher : heralded "wlan0" x.2 = true := by decide +kernel
  have hfailed : x.1.env.failed = s₁.env.failed := by decide +kernel
  have hon : x.1.roster.modes.all (fun r => r.accessPoint.carrierName? = some "wlan0") = true := by decide +kernel
  have hs : plane.audited.Reach (fun _ _ => True) auditing s := reach_any join auditing
  have hm : s.roster.modeOf accessPoint = .ok .accessPoint := by decide +kernel
  have hok : (plane.audited.start accessPoint (.given hotspot) s).1 = .ok () := by decide +kernel
  have hok : plane.audited.start accessPoint (.given hotspot) s = (.ok (), s₁) := Prod.ext hok rfl
  have hmvs : plane.audited.Allowed Waiting s₁ welcome :=
    ⟨trivial, trivial, trivial, trivial, trivial, waiting_time _ id second, trivial, trivial⟩
  obtain ⟨hrun, r, name, p, hr, hname, hp, hgiven, hup, hserves⟩ := run_serving hs hm hok hmvs
  have hx : welcome.foldl (plane.audited.chronicle .accessPoint) (s₁, []) = x := rfl
  rw [hx] at hrun hr hup hserves
  rw [hgiven hotspot rfl] at hp hserves
  rw [hr, Option.all_some, decide_eq_true_eq] at hon
  obtain rfl : name = "wlan0" := Option.some.inj (hname.symm.trans hon)
  obtain ⟨ha, hserver, hcalls⟩ := hserves hher hfailed
  exact ⟨hher, hfailed, hrun, r, hr, hp, hup.mpr hher, ha, hserver, hcalls⟩

end Camera

end Connectivity
