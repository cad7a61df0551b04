/-
  Connectivity.Proofs.Clients — an access point knows how many clients it has.
  - `tally`: the clients that joined and did not leave, counted on the events of one interface alone.
  - `counts_answer`: with any event the access point counts as the tally does, and it is connected
    exactly while it has a client.
  - `counted_step`: so does every move, where a start of the access point begins a new tally.
-/

import Connectivity.Proofs.Deeds
import Connectivity.Proofs.Moves

namespace Connectivity

/-! ## Tallies -/

/-- The clients after an event. One that joins is counted up to the largest word of 32 bits, and where
    there is none, none leaves. -/
def Event.count : Event → Nat → Nat
  | .apClientJoined, n => min (n + 1) 0xffffffff
  | .apClientLeft, n => n - 1
  | _, n => n

/-- The clients after a history of events, the latest first, of which those of one interface count. -/
def tally (name : String) : List (String × Event) → Nat
  | [] => 0
  | (name', event) :: history =>
    if name' = name then event.count (tally name history) else tally name history

/-- An access point is connected exactly while it has a client. -/
def ModeState.Attended (m : ModeState) : Prop := m.status = .connected ↔ 1 ≤ m.clients

/-- A running access point that is attended, with as many clients as a history says. -/
structure ModeState.Counted (m : ModeState) (history : List (String × Event)) : Prop where
  attended : m.Attended
  clients : ∃ name, m.carrierName? = some name ∧ m.clients = tally name history

/-! ## Events -/

section
variable {σ : Type} {P : Platform σ} {m : ModeState} {e : Env σ}

namespace Link

theorem apReady_counts (m : ModeState) (e : Env σ) :
    (apReady P m e).1.clients = m.clients ∧ (apReady P m e).1.status = m.status := by
  simp only [apReady]
  (repeat' split) <;> exact ⟨rfl, rfl⟩

theorem clientJoined_counts (h : m.Attended) (hr : m.status.isRunning = true) :
    (clientJoined m e).1.clients = Event.count .apClientJoined m.clients ∧ (clientJoined m e).1.Attended := by
  have hcount : min (m.clients + 1) clientsMax = Event.count .apClientJoined m.clients := rfl
  have hpos : 1 ≤ min (m.clients + 1) clientsMax := by
    have hmax : clientsMax = 0xffffffff := rfl
    omega
  simp only [clientJoined]
  split
  · exact ⟨hcount, ⟨fun _ => hpos, fun _ => rfl⟩⟩
  · rename_i hn
    refine ⟨hcount, ⟨fun _ => hpos, fun _ => ?_⟩⟩
    -- A mode that waits has no client, and this is its first.
    by_contra hs
    have hwaits : m.status = .connecting := (Status.isRunning_iff.mp hr).resolve_right hs
    have hnone : ¬ 1 ≤ m.clients := fun h1 => hs (h.mpr h1)
    have hfirst : min (m.clients + 1) clientsMax = 1 := by
      have hmax : clientsMax = 0xffffffff := rfl
      omega
    exact hn ⟨hfirst, hwaits⟩

theorem clientLeft_counts (h : m.Attended) :
    (clientLeft m e).1.clients = Event.count .apClientLeft m.clients ∧ (clientLeft m e).1.Attended := by
  have hcount : m.clients - 1 = Event.count .apClientLeft m.clients := rfl
  simp only [clientLeft]
  split
  · rename_i h0
    refine ⟨?_, h⟩
    rw [← hcount, h0]
  · rename_i h0
    split
    · rename_i hlast
      refine ⟨hcount, ⟨fun hs => ?_, fun h1 => ?_⟩⟩
      · cases hs
      · have h1 : 1 ≤ m.clients - 1 := h1
        omega
    · rename_i hmore
      have hs : m.status = .connected := h.mpr (by omega)
      refine ⟨hcount, ⟨fun _ => ?_, fun _ => hs⟩⟩
      show 1 ≤ m.clients - 1
      by_contra h1
      exact hmore ⟨by omega, hs⟩

end Link

namespace Dispatch

/-- What a running access point counts. -/
theorem counts_answer (retry : Nat) (event : Event) (hm : m.mode = .accessPoint) (hc : m.client = none)
    (hr : m.status.isRunning = true) (h : m.Attended) :
    (answer P retry event m e).1.clients = event.count m.clients ∧ (answer P retry event m e).1.Attended := by
  have hidle (event : Event) (hcount : event.count m.clients = m.clients) {m' : ModeState}
      (hclients : m'.clients = m.clients) (hs : m'.status = m.status) :
      m'.clients = event.count m.clients ∧ m'.Attended := by
    rw [ModeState.Attended, hclients, hs, hcount]
    exact ⟨rfl, h⟩
  have hkind (event : Event) : byKind P event m e = accessPoint P event m e := by
    unfold byKind
    rw [hm]
  have hnd : ¬ m.status = .disconnecting := by
    intro hd
    rw [hd] at hr
    cases hr
  cases event with
  | apStarted =>
    show (byKind P .apStarted m e).1.clients = _ ∧ (byKind P .apStarted m e).1.Attended
    rw [hkind, accessPoint]
    obtain ⟨hclients, hs⟩ := Link.apReady_counts (P := P) m e
    split
    · exact hidle _ rfl hclients hs
    · exact hidle _ rfl rfl rfl
  | apClientJoined =>
    show (byKind P .apClientJoined m e).1.clients = _ ∧ (byKind P .apClientJoined m e).1.Attended
    rw [hkind]
    exact Link.clientJoined_counts h hr
  | apClientLeft =>
    show (byKind P .apClientLeft m e).1.clients = _ ∧ (byKind P .apClientLeft m e).1.Attended
    rw [hkind]
    exact Link.clientLeft_counts h
  | tick =>
    show (Link.tick P retry m e).1.clients = _ ∧ (Link.tick P retry m e).1.Attended
    unfold Link.tick
    rw [hc]
    split <;> exact hidle _ rfl rfl rfl
  | ifDown =>
    simp only [answer]
    rw [if_neg hnd, hkind]
    exact hidle _ rfl rfl rfl
  | _ =>
    simp only [answer]
    rw [hkind]
    exact hidle _ rfl rfl rfl

end Dispatch

end

/-! ## Moves -/

namespace ControlPlane

variable {σ τ : Type} (M : ControlPlane σ τ)

/-- Whether a move is a start of a mode that succeeds. -/
def begins (mode : Mode) (s : State σ τ) : Move σ τ → Bool
  | .start h source => (s.roster.modeOf h).toOption = some mode && (M.start h source s).1.isOk
  | _ => false

/-- One more move of a run, and the events since the mode was last started, the latest first. -/
def chronicle (mode : Mode) (x : State σ τ × List (String × Event)) (mv : Move σ τ) :
    State σ τ × List (String × Event) :=
  (M.step mv x.1,
    match mv with
    | .event name event => (name, event) :: x.2
    | mv => if M.begins mode x.1 mv then [] else x.2)

variable {M} {s : State σ τ} {r r' : Modes} {history : List (String × Event)}

theorem counted_begun (m : ModeState) (c : Carrier) (p : Parameters) : (m.begun c p).Counted [] := by
  rw [ModeState.begun, ModeState.refresh_snd]
  refine ⟨⟨fun hs => ?_, fun h1 => ?_⟩, c.name, rfl, rfl⟩
  · cases hs
  · cases h1

theorem counted_reaction {m : ModeState} (hm : m.mode = .accessPoint) (hc : m.client = none)
    (h : m.status.isRunning = true → m.Counted history) (name : String) (event : Event) (e : Env σ)
    (hr : (M.reaction name event m e).1.status.isRunning = true) :
    (M.reaction name event m e).1.Counted ((name, event) :: history) := by
  by_cases ha : m.accepts name = true
  · obtain ⟨hnd, hname⟩ := ModeState.accepts_iff.mp ha
    cases hrun : m.status.isRunning with
    | true =>
      obtain ⟨hattended, name', hname', hclients⟩ := h hrun
      obtain rfl : name = name' := Option.some.inj (hname.symm.trans hname')
      have htally : tally name ((name, event) :: history) = event.count m.clients := by
        rw [tally, if_pos rfl, hclients]
      unfold reaction
      rw [if_pos ha]
      by_cases hpre : event = .ifDownPre
      · subst hpre
        rw [if_pos rfl, hc]
        exact ⟨hattended, name, hname, htally.symm⟩
      · rw [if_neg hpre]
        obtain ⟨hcount, hattends⟩ := Dispatch.counts_answer (P := M.platform) (e := e) M.policy.retryNanos event
          hm hc hrun hattended
        have hcarrier := ModeState.carrierName?_of_fixed
          (Dispatch.fixed_answer M.platform M.policy.retryNanos event m e)
        simp only [ModeState.refresh_snd]
        exact ⟨hattends, name, hcarrier.trans hname, hcount.trans htally.symm⟩
    | false =>
      -- A mode that is disconnecting does not run again.
      exfalso
      have hs : m.status = .disconnecting := Status.eq_disconnecting hrun hnd
      unfold reaction at hr
      rw [if_pos ha] at hr
      by_cases hpre : event = .ifDownPre
      · rw [if_pos hpre, hc] at hr
        rw [hrun] at hr
        cases hr
      · rw [if_neg hpre] at hr
        simp only [ModeState.refresh_snd] at hr
        obtain ⟨hf, -⟩ : Dispatch.Fading event m (Dispatch.answer M.platform M.policy.retryNanos event m e).1 ∧ _ :=
          Dispatch.answer_ending _ event hs hc
        rcases hf.status with hd | ⟨hd, -⟩ <;> rw [hd] at hr <;> cases hr
  · rw [reaction_of_not_accepts (eq_false_of_ne_true ha)] at hr ⊢
    obtain ⟨hattended, name', hname', hclients⟩ := h hr
    have hother : name ≠ name' := by
      rintro rfl
      exact ha (ModeState.accepts_iff.mpr ⟨Status.ne_of_isRunning hr, hname'⟩)
    refine ⟨hattended, name', hname', ?_⟩
    rw [tally, if_neg hother, hclients]

theorem counted_start (hl : ∀ r, s.roster.modes = some r → r.Labelled) (hr : s.roster.modes = some r)
    (h : r.accessPoint.status.isRunning = true → r.accessPoint.Counted history) {hd : Handle}
    {source : ParameterSource} (hr' : (M.start hd source s).2.roster.modes = some r')
    (hrun : r'.accessPoint.status.isRunning = true) :
    r'.accessPoint.Counted (if M.begins .accessPoint s (.start hd source) then [] else history) := by
  rcases start_cases hl hd source with ⟨err, he, hv⟩ | ⟨mode, r₀, m, hm, hr₀, hdis, hv, hcases⟩
  · obtain rfl : r = r' := Option.some.inj ((hv.trans hr).symm.trans hr')
    have hfails : M.begins .accessPoint s (.start hd source) = false := by
      simp [begins, he, Except.isOk, Except.toBool]
    rw [hfails, if_neg Bool.false_ne_true]
    exact h hrun
  · obtain rfl : r = r₀ := Option.some.inj (hr.symm.trans hr₀)
    obtain rfl : r.set mode m = r' := Option.some.inj (hv.symm.trans hr')
    cases mode with
    | normal =>
      have hother : M.begins .accessPoint s (.start hd source) = false := by
        simp [begins, hm, Except.toOption]
      rw [hother, if_neg Bool.false_ne_true]
      exact h hrun
    | accessPoint =>
      have hrun : m.status.isRunning = true := hrun
      rcases hcases with ⟨-, rfl⟩ | ⟨hok, c, p, rfl, -⟩
      · have hidle : (r.get .accessPoint).cleared.status = .disconnected := hdis
        rw [hidle] at hrun
        cases hrun
      · have hbegins : M.begins .accessPoint s (.start hd source) = true := by
          simp [begins, hm, hok, Except.toOption, Except.isOk, Except.toBool]
        rw [hbegins, if_pos rfl]
        exact counted_begun _ c p

theorem counted_stop (hl : ∀ r, s.roster.modes = some r → r.Labelled) (hr : s.roster.modes = some r)
    (h : r.accessPoint.status.isRunning = true → r.accessPoint.Counted history) {hd : Handle}
    (hr' : (M.stop hd s).2.roster.modes = some r') (hrun : r'.accessPoint.status.isRunning = true) :
    r'.accessPoint.Counted history := by
  -- Neither a session given back nor what a callback was told is counted.
  have hkept {m m' : ModeState} (hsame : m'.status = m.status ∧ m'.clients = m.clients ∧ m'.carrier = m.carrier)
      (hm : m.status.isRunning = true → m.Counted history) (hrun : m'.status.isRunning = true) :
      m'.Counted history := by
    obtain ⟨hs, hclients, hcarrier⟩ := hsame
    rw [hs] at hrun
    obtain ⟨hattended, hname⟩ := hm hrun
    refine ⟨?_, ?_⟩
    · rw [ModeState.Attended, hs, hclients]
      exact hattended
    · rw [ModeState.carrierName?, hcarrier, hclients]
      exact hname
  rcases modes_stop hl hr hd with ⟨_, r₁, -, hsur, hv⟩ | ⟨mode, r₁, e, ⟨result, m', e'⟩, -, -, hsur, hx, -, hv⟩
  · obtain rfl : r₁ = r' := Option.some.inj (hv.symm.trans hr')
    have hsur : r₁.accessPoint = r.accessPoint ∨ r₁.accessPoint = { r.accessPoint with client := none } :=
      hsur .accessPoint
    refine hkept ?_ h hrun
    rcases hsur with hsur | hsur <;> rw [hsur] <;> exact ⟨rfl, rfl, rfl⟩
  · obtain rfl : r₁.set mode m'.refresh.2 = r' := Option.some.inj (hv.symm.trans hr')
    have hsur : r₁.accessPoint = r.accessPoint ∨ r₁.accessPoint = { r.accessPoint with client := none } :=
      hsur .accessPoint
    cases mode with
    | normal =>
      refine hkept ?_ h hrun
      show r₁.accessPoint.status = _ ∧ r₁.accessPoint.clients = _ ∧ r₁.accessPoint.carrier = _
      rcases hsur with hsur | hsur <;> rw [hsur] <;> exact ⟨rfl, rfl, rfl⟩
    | accessPoint =>
      have hm' : m'.refresh.2.status = m'.status := by rw [ModeState.refresh_snd]
      have hrun : m'.refresh.2.status.isRunning = true := hrun
      cases result with
      | error err =>
        obtain ⟨-, -, rfl, -⟩ := Link.stop_error _ hx
        refine hkept ?_ h hrun
        show (r₁.accessPoint.refresh.2).status = _ ∧ (r₁.accessPoint.refresh.2).clients = _ ∧
          (r₁.accessPoint.refresh.2).carrier = _
        rw [ModeState.refresh_snd]
        rcases hsur with hsur | hsur <;> rw [hsur] <;> exact ⟨rfl, rfl, rfl⟩
      | ok u =>
        exfalso
        rw [hm'] at hrun
        rcases Link.stop_ok_fst _ hx with ⟨-, rfl⟩ | ⟨-, -, -, hs | hs⟩
        · cases hrun
        · rw [hs] at hrun
          cases hrun
        · rw [hs] at hrun
          cases hrun

theorem counted_step (hl : ∀ r, s.roster.modes = some r → r.Labelled)
    (hc : ∀ r, s.roster.modes = some r → r.accessPoint.client = none)
    (h : ∀ r, s.roster.modes = some r → r.accessPoint.status.isRunning = true → r.accessPoint.Counted history)
    (mv : Move σ τ) (hr' : (M.step mv s).roster.modes = some r')
    (hrun : r'.accessPoint.status.isRunning = true) :
    r'.accessPoint.Counted (M.chronicle .accessPoint (s, history) mv).2 := by
  cases hr : s.roster.modes with
  | none =>
    obtain ⟨interfaces, hi⟩ := fresh_step hr mv hr'
    obtain ⟨_, _, hnew⟩ := get_ofInterfaces? hi .accessPoint
    have hnew : r'.accessPoint = _ := hnew
    rw [hnew] at hrun
    cases hrun
  | some r =>
    by_cases hcalm : mv.isCalm = true
    · obtain ⟨b, hb⟩ := calm_step (hl r hr) hr hcalm hr' .accessPoint
      have hb : r'.accessPoint = { r.accessPoint with listening := b } := hb
      have hsame : (M.chronicle .accessPoint (s, history) mv).2 = history := by
        cases mv <;> first | rfl | cases hcalm
      rw [hb] at hrun
      obtain ⟨hattended, hclients⟩ := h r hr hrun
      rw [hb, hsame]
      exact ⟨hattended, hclients⟩
    · cases mv with
      | start hd source => exact counted_start hl hr (h r hr) hr' hrun
      | stop hd => exact counted_stop hl hr (h r hr) hr' hrun
      | event name event =>
        obtain ⟨r'', hr'', hget⟩ := modes_receive (M := M) hr name event
        obtain rfl : r'' = r' := Option.some.inj (hr''.symm.trans hr')
        obtain ⟨e, he⟩ := hget .accessPoint
        have he : r''.accessPoint = (M.reaction name event r.accessPoint e).1 := he
        rw [he] at hrun ⊢
        exact counted_reaction (hl r hr .accessPoint) (hc r hr) (h r hr) name event e hrun
      | _ => exact absurd rfl hcalm

/-! ## Runs -/

theorem chronicle_fst (mode : Mode) (mvs : List (Move σ τ)) (x : State σ τ × List (String × Event)) :
    (mvs.foldl (M.chronicle mode) x).1 = M.run mvs x.1 := by
  induction mvs generalizing x with
  | nil => rfl
  | cons mv mvs ih => exact ih _

theorem counted_run {env : Env σ} {store : τ} (mvs : List (Move σ τ)) {x : State σ τ × List (String × Event)}
    (hs : M.Reach (fun _ _ => True) (M.initial env store) x.1)
    (h : ∀ r, x.1.roster.modes = some r → r.accessPoint.status.isRunning = true → r.accessPoint.Counted x.2) :
    let y := mvs.foldl (M.chronicle .accessPoint) x
    ∀ r, y.1.roster.modes = some r → r.accessPoint.status.isRunning = true → r.accessPoint.Counted y.2 := by
  induction mvs generalizing x with
  | nil => exact h
  | cons mv mvs ih =>
    have hclient (r : Modes) (hr : x.1.roster.modes = some r) : r.accessPoint.client = none :=
      (hs.consistent rfl hr).accessPoint
    refine ih (x := M.chronicle .accessPoint x mv) (.step mv hs trivial) fun r' hr' hrun => ?_
    exact counted_step (hs.labelled rfl) hclient h mv hr' hrun

/-- Whatever is called, whatever events arrive in whatever order and whatever the platform answers: a
    running access point is connected exactly while it has a client, and it has as many as joined and
    did not leave since its last start, by the events of its interface alone. -/
theorem run_counted (env : Env σ) (store : τ) (mvs : List (Move σ τ)) :
    let x := mvs.foldl (M.chronicle .accessPoint) (M.initial env store, [])
    x.1 = M.run mvs (M.initial env store) ∧
    ∀ r, x.1.roster.modes = some r → r.accessPoint.status.isRunning = true →
      (r.accessPoint.status = .connected ↔ 1 ≤ r.accessPoint.clients) ∧
        ∃ name, r.accessPoint.carrierName? = some name ∧ r.accessPoint.clients = tally name x.2 := by
  intro x
  refine ⟨chronicle_fst .accessPoint mvs _, fun r hr hrun => ?_⟩
  obtain ⟨hattended, hclients⟩ := counted_run mvs .refl (fun r hr => by cases hr) r hr hrun
  exact ⟨hattended, hclients⟩

end ControlPlane

namespace Camera

open Simulation ControlPlane

/-- Two clients join the camera's network and one leaves; another interface reports one as well. -/
def guests {σ τ : Type} : List (Move σ τ) :=
  share ++
    [.event "wlan0" .apStarted, .event "wlan0" .apClientJoined, .event "wlan0" .apStarted,
      .event "wlan0" .apClientJoined, .event "eth0" .apClientLeft, .event "wlan0" .apClientLeft]

theorem guests_counted :
    let x := guests.foldl (plane.chronicle .accessPoint) (off, [])
    ∃ r, x.1.roster.modes = some r ∧ r.accessPoint.status = .connected ∧ r.accessPoint.clients = 1 ∧
      x.1 = plane.run guests off ∧
      (r.accessPoint.status = .connected ↔ 1 ≤ r.accessPoint.clients) ∧
        ∃ name, r.accessPoint.carrierName? = some name ∧ r.accessPoint.clients = tally name x.2 := by
  intro x
  have hm : x.1.roster.modes.any (fun r =>
      decide (r.accessPoint.status = .connected) && decide (r.accessPoint.clients = 1)) = true := by
    decide +kernel
  obtain ⟨r, hr, hd⟩ := (Option.any_eq_true _ _).mp hm
  simp only [Bool.and_eq_true, decide_eq_true_eq] at hd
  obtain ⟨hsame, hcounted⟩ :=
    run_counted (M := plane) { platform := Board.ofInterfaces Network.twoPortBoard } { inner := {} } guests
  refine ⟨r, hr, hd.1, hd.2, hsame, hcounted r hr ?_⟩
  rw [hd.1]
  rfl

end Camera

end Connectivity
