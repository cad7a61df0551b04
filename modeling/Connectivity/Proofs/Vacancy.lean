/-
  Connectivity.Proofs.Vacancy — what an ended connection leaves of its mode.
  - `Emptied`: neither address nor session is left, nor a server or an access point that is up; and
    once the mode is disconnected its flags are down.
  - `waning_answer`: of a mode that is disconnecting an event changes flags and counts alone.
  - `vacant_step`: every move keeps it, and the count of clients too, but for one that joins late.
-/

import Connectivity.Proofs.Clients
import Connectivity.Proofs.Quiet

namespace Connectivity

/-- What is left of a connection that is ending or has ended; `alone` says that no client joined an
    access point meanwhile. -/
structure ModeState.Emptied (alone : Prop) (m : ModeState) : Prop where
  address : m.address = .unspecified
  session : m.client = none
  server : m.serverRunning = false
  apStarted : m.apStarted = false
  down : m.status = .disconnected → m.ifUp = false ∧ m.linkUp = false
  clients : alone ∨ m.mode = .normal → m.clients = 0

/-- A mode that is not running is emptied. -/
def ModeState.Vacant (alone : Prop) (m : ModeState) : Prop := m.status.isRunning = false → m.Emptied alone

namespace ModeState.Vacant

variable {alone : Prop} {m : ModeState}

theorem surrendered (h : m.Vacant alone) : { m with client := none }.Vacant alone := fun hr =>
  let k := h hr
  ⟨k.address, rfl, k.server, k.apStarted, k.down, k.clients⟩

theorem telling (h : m.Vacant alone) (told : Standing) (listening : Bool) :
    { m with told, listening }.Vacant alone := fun hr =>
  let k := h hr
  ⟨k.address, k.session, k.server, k.apStarted, k.down, k.clients⟩

theorem refresh (h : m.Vacant alone) : m.refresh.2.Vacant alone := by
  rw [refresh_snd]
  exact h.telling m.standing m.listening

theorem cleared : m.cleared.Vacant alone := fun _ => ⟨rfl, rfl, rfl, rfl, fun _ => ⟨rfl, rfl⟩, fun _ => rfl⟩

end ModeState.Vacant

theorem Event.count_zero {event : Event} (h : event ≠ .apClientJoined) : event.count 0 = 0 := by
  cases event <;> first | rfl | exact absurd rfl h

/-! ## Modes that are disconnecting -/

namespace Dispatch

variable {σ : Type} {P : Platform σ} {m : ModeState} {e : Env σ}

/-- What becomes of flags and counts as a mode that is disconnecting answers an event. -/
structure Waning (event : Event) (m m' : ModeState) : Prop where
  apStarted : m'.apStarted = m.apStarted
  down : m'.status = .disconnected → m'.ifUp = false ∧ m'.linkUp = false
  clients : m'.clients = m.clients ∨ m.mode = .accessPoint ∧ m'.clients = event.count m.clients

/-- The mode goes on disconnecting, whatever becomes of flags and address. -/
theorem Waning.of_ending {event : Event} {m' : ModeState} (hs : m'.status = .disconnecting)
    (ha : m'.apStarted = m.apStarted) (hc : m'.clients = m.clients) : Waning event m m' := by
  refine ⟨ha, fun hd => ?_, .inl hc⟩
  rw [hs] at hd
  cases hd

theorem waning_loseLink (event : Event) (hs : m.status = .disconnecting) (ifUp linkUp : Bool) :
    Waning event m (Link.loseLink P { m with ifUp, linkUp } e).1 := by
  rw [Link.loseLink_fst]
  refine .of_ending ?_ rfl rfl
  simp [hs]

theorem waning_ethernet (event : Event) (hs : m.status = .disconnecting) :
    Waning event m (ethernet P event m e).1 := by
  have hready (ifUp linkUp : Bool) : Waning event m (bothUp P { m with ifUp, linkUp } e).1 := by
    refine .of_ending ?_ ?_ ?_ <;> simp [bothUp, hs]
  unfold ethernet
  split
  · exact hready true m.linkUp
  · exact hready m.ifUp true
  · exact waning_loseLink _ hs false false
  · exact waning_loseLink _ hs m.ifUp false
  · exact .of_ending hs rfl rfl

theorem waning_station (event : Event) (hs : m.status = .disconnecting) :
    Waning event m (station P event m e).1 := by
  have hn : ¬ m.status = .connecting := by
    rw [hs]
    decide
  unfold station
  split
  · rw [if_neg hn]
    exact .of_ending hs rfl rfl
  · simp only
    rw [if_neg hn]
    exact waning_loseLink _ hs m.ifUp false
  · rw [if_pos hs]
    exact ⟨rfl, fun _ => ⟨rfl, rfl⟩, .inl rfl⟩
  · exact waning_loseLink _ hs m.ifUp false
  · exact waning_loseLink _ hs m.ifUp false
  · exact .of_ending hs rfl rfl

/-- Clients are counted, though the access point is going down. -/
theorem waning_accessPoint (event : Event) (hs : m.status = .disconnecting) (hm : m.mode = .accessPoint) :
    Waning event m (accessPoint P event m e).1 := by
  unfold accessPoint
  split
  · rw [if_neg (by rw [hs]; decide)]
    exact .of_ending hs rfl rfl
  · simp only [Link.clientJoined]
    rw [if_neg (by simp [hs])]
    exact ⟨rfl, fun hd => absurd (hs.symm.trans hd) (by decide), .inr ⟨hm, rfl⟩⟩
  · simp only [Link.clientLeft]
    split
    · exact .of_ending hs rfl rfl
    · rw [if_neg (by simp [hs])]
      exact ⟨rfl, fun hd => absurd (hs.symm.trans hd) (by decide), .inr ⟨hm, rfl⟩⟩
  · exact .of_ending hs rfl rfl

theorem waning_answer (retry : Nat) (event : Event) (hs : m.status = .disconnecting) :
    Waning event m (answer P retry event m e).1 := by
  have hkind (event : Event) : Waning event m (byKind P event m e).1 := by
    unfold byKind
    split
    · rename_i hm
      exact waning_accessPoint event hs hm
    · exact waning_ethernet event hs
    · exact waning_station event hs
    · exact .of_ending hs rfl rfl
  unfold answer
  split
  · unfold Link.tick
    rw [if_pos hs]
    exact .of_ending hs rfl rfl
  · rw [if_pos hs]
    exact ⟨rfl, fun _ => ⟨rfl, rfl⟩, .inl rfl⟩
  · exact hkind _

end Dispatch

/-! ## Moves -/

namespace ControlPlane

variable {σ τ : Type} {M : ControlPlane σ τ} {s : State σ τ} {alone : Prop}

/-- A client joins an access point that is going down. -/
def joinsLate (s : State σ τ) : Move σ τ → Bool
  | .event name .apClientJoined =>
    (s.mode? .accessPoint).any fun m => m.accepts name && m.status = .disconnecting
  | _ => false

theorem vacant_reaction {m : ModeState} (h : m.Vacant alone) (name : String) (event : Event) (e : Env σ)
    (hlate : alone → m.mode = .accessPoint → m.accepts name = true → m.status = .disconnecting →
      event ≠ .apClientJoined) :
    (M.reaction name event m e).1.Vacant alone := by
  by_cases ha : m.accepts name = true
  · unfold reaction
    rw [if_pos ha]
    by_cases hpre : event = .ifDownPre
    · rw [if_pos hpre]
      cases m.client with
      | none => exact h
      | some c => exact h.surrendered
    · rw [if_neg hpre]
      refine ModeState.Vacant.refresh fun hr => ?_
      cases hrun : m.status.isRunning with
      | true =>
        have hdeeds : Deeds M.platform (m, e) _ := Dispatch.deeds_answer M.policy.retryNanos event hrun
        rw [hdeeds.isRunning hrun] at hr
        cases hr
      | false =>
        have hs : m.status = .disconnecting := Status.eq_disconnecting hrun (ModeState.accepts_iff.mp ha).1
        have hempty := h hrun
        have hw : Dispatch.Waning event m (Dispatch.answer M.platform M.policy.retryNanos event m e).1 :=
          Dispatch.waning_answer _ event hs
        obtain ⟨hf, -⟩ : Dispatch.Fading event m _ ∧ _ :=
          Dispatch.answer_ending (P := M.platform) (e := e) M.policy.retryNanos event hs hempty.session
        have hserver := hf.server.trans hempty.server
        have hap := hw.apStarted.trans hempty.apStarted
        refine ⟨?_, hf.client, hserver, hap, hw.down, ?_⟩
        · rcases hf.address with ha | ha
          · exact ha.trans hempty.address
          · exact ha
        · rw [ModeState.mode_of_fixed hf.fixed]
          intro halone
          have hnone : m.clients = 0 := hempty.clients halone
          rcases hw.clients with hsame | ⟨hm, hcount⟩
          · exact hsame.trans hnone
          · have halone : alone := halone.resolve_right (by rw [hm]; decide)
            rw [hcount, hnone]
            exact Event.count_zero (hlate halone hm ha hs)
  · rw [reaction_of_not_accepts (eq_false_of_ne_true ha)]
    exact h

theorem vacant_linkStop {m m' : ModeState} {e e' : Env σ} {result : Except Error Unit}
    (hc : m.carrier.isSome = true) (hx : Link.stop M.platform m e = (result, m', e')) (h : m.Vacant alone) :
    m'.Vacant alone := by
  cases result with
  | error err =>
    obtain ⟨-, -, rfl, -⟩ := Link.stop_error _ hx
    exact h
  | ok u =>
    rcases Link.stop_ok _ hx with ⟨hn, -, -⟩ | ⟨c, -, e₁, -, -, -, ht⟩
    · rw [hn] at hc
      cases hc
    · obtain ⟨down, hd⟩ := Link.tearDown_fst M.platform c m e₁
      obtain rfl : _ = m' := hd.symm.trans (congrArg Prod.fst ht)
      refine fun _ => ⟨rfl, rfl, rfl, rfl, fun hs => ?_, fun _ => rfl⟩
      cases down with
      | false => cases hs
      | true => exact ⟨rfl, rfl⟩

variable {r r' : Modes}

theorem vacant_start (hl : ∀ r, s.roster.modes = some r → r.Labelled) (hr : s.roster.modes = some r)
    (h : ∀ mode, (r.get mode).Vacant alone) {hd : Handle} {source : ParameterSource}
    (hr' : (M.start hd source s).2.roster.modes = some r') (mode : Mode) : (r'.get mode).Vacant alone := by
  rcases start_cases hl hd source with ⟨_, -, hv⟩ | ⟨mode₀, r₀, m, -, hr₀, -, hv, hcases⟩
  · obtain rfl : r = r' := Option.some.inj ((hv.trans hr).symm.trans hr')
    exact h mode
  · obtain rfl : r = r₀ := Option.some.inj (hr.symm.trans hr₀)
    obtain rfl : r.set mode₀ m = r' := Option.some.inj (hv.symm.trans hr')
    rw [Modes.get_set]
    split
    · rcases hcases with ⟨-, rfl⟩ | ⟨-, c, p, rfl, -⟩
      · exact .cleared
      · intro hrun
        rw [ModeState.begun_status] at hrun
        cases hrun
    · exact h mode

theorem vacant_stop (hl : ∀ r, s.roster.modes = some r → r.Labelled) (hr : s.roster.modes = some r)
    (hc : ∀ mode, (r.get mode).Carried) (h : ∀ mode, (r.get mode).Vacant alone) {hd : Handle}
    (hr' : (M.stop hd s).2.roster.modes = some r') (mode : Mode) : (r'.get mode).Vacant alone := by
  have hgiven {r₁ : Modes} (hsur : Surrendered r r₁) (mode : Mode) : (r₁.get mode).Vacant alone := by
    rcases hsur mode with hget | hget <;> rw [hget]
    · exact h mode
    · exact (h mode).surrendered
  rcases modes_stop hl hr hd with ⟨_, r₁, -, hsur, hv⟩ | ⟨mode₀, r₁, e, ⟨_, m', _⟩, -, hrun, hsur, hx, -, hv⟩
  · obtain rfl : r₁ = r' := Option.some.inj (hv.symm.trans hr')
    exact hgiven hsur mode
  · obtain rfl : r₁.set mode₀ m'.refresh.2 = r' := Option.some.inj (hv.symm.trans hr')
    rw [Modes.get_set]
    split
    · have hcarrier : (r₁.get mode₀).carrier.isSome = true := by
        rw [hsur.carrier]
        exact hc mode₀ (Status.ne_of_isRunning hrun)
      exact (vacant_linkStop hcarrier hx (hgiven hsur mode₀)).refresh
    · exact hgiven hsur mode

theorem vacant_step {mv : Move σ τ} (hl : ∀ r, s.roster.modes = some r → r.Labelled)
    (hc : ∀ r, s.roster.modes = some r → ∀ mode, (r.get mode).Carried)
    (h : ∀ r, s.roster.modes = some r → ∀ mode, (r.get mode).Vacant alone)
    (hlate : alone → joinsLate s mv = false) (hr' : (M.step mv s).roster.modes = some r') (mode : Mode) :
    (r'.get mode).Vacant alone := by
  cases hr : s.roster.modes with
  | none =>
    obtain ⟨interfaces, hi⟩ := fresh_step hr mv hr'
    obtain ⟨_, _, hnew⟩ := get_ofInterfaces? hi mode
    rw [hnew]
    exact fun _ => ⟨rfl, rfl, rfl, rfl, fun _ => ⟨rfl, rfl⟩, fun _ => rfl⟩
  | some r =>
    by_cases hcalm : mv.isCalm = true
    · obtain ⟨b, hb⟩ := calm_step (hl r hr) hr hcalm hr' mode
      rw [hb]
      exact (h r hr mode).telling _ b
    · cases mv with
      | start hd source => exact vacant_start hl hr (h r hr) hr' mode
      | stop hd => exact vacant_stop hl hr (hc r hr) (h r hr) hr' mode
      | event name event =>
        obtain ⟨r'', hr'', hget⟩ := modes_receive (M := M) hr name event
        obtain rfl : r'' = r' := Option.some.inj (hr''.symm.trans hr')
        obtain ⟨e, he⟩ := hget mode
        rw [he]
        refine vacant_reaction (h r hr mode) name event e fun halone hm ha hs => ?_
        rintro rfl
        obtain rfl : mode = .accessPoint := (hl r hr mode).symm.trans hm
        have hnot := hlate halone
        simp [joinsLate, State.mode?, hr, ha, hs] at hnot
      | _ => exact absurd rfl hcalm

/-! ## Runs -/

theorem reach_all_vacant {ok : State σ τ → Move σ τ → Prop} {s₀ : State σ τ}
    (halone : alone → ∀ s mv, ok s mv → joinsLate s mv = false) (hn : s₀.roster.modes = none)
    (hs : M.Reach ok s₀ s) :
    ∀ r, s.roster.modes = some r → ∀ mode, (r.get mode).Vacant alone := by
  induction hs with
  | refl => simp [hn]
  | @step s mv hs hok ih =>
    have hcarried (r : Modes) (hr : s.roster.modes = some r) := reach_carried hn hs hr
    exact fun r' hr' => vacant_step (hs.labelled hn) hcarried ih (fun ha => halone ha _ _ hok) hr'

/-- Whatever is called, whatever events arrive and whatever the platform answers, a mode that is
    disconnected has neither address nor session, its flags are down, and neither a server nor an
    access point is up. It counts no client either, unless one joined an access point that was going
    down. -/
theorem reach_vacant {ok : State σ τ → Move σ τ → Prop} {env : Env σ} {store : τ} {r : Modes} {mode : Mode}
    (hs : M.Reach ok (M.initial env store) s) (hr : s.roster.modes = some r)
    (hd : (r.get mode).status = .disconnected) :
    (r.get mode).address = .unspecified ∧ (r.get mode).ifUp = false ∧ (r.get mode).linkUp = false ∧
      (r.get mode).apStarted = false ∧ (r.get mode).serverRunning = false ∧ (r.get mode).client = none ∧
      (mode = .normal ∨ (∀ s mv, ok s mv → joinsLate s mv = false) → (r.get mode).clients = 0) := by
  have hrun : (r.get mode).status.isRunning = false := by
    rw [hd]
    rfl
  have hempty := reach_all_vacant id rfl hs r hr mode hrun
  obtain ⟨hi, hl⟩ := hempty.down hd
  refine ⟨hempty.address, hi, hl, hempty.apStarted, hempty.server, hempty.session, fun h => hempty.clients ?_⟩
  rcases h with rfl | h
  · exact .inr (hs.labelled rfl r hr .normal)
  · exact .inl h

end ControlPlane

namespace Camera

open Simulation ControlPlane

/-- The access point has a client when it is stopped, and its radio goes down later. -/
def closing {σ τ : Type} (slow : σ → σ) : List (Move σ τ) :=
  switchOn ++
    [.start accessPoint (.given hotspot), .event "wlan0" .apStarted, .event "wlan0" .apClientJoined,
      .outside slow id 0, .stop accessPoint]

theorem a_late_client_outlasts_its_access_point :
    ¬ ∀ (s : PlaneState) (mode : Mode) (m : ModeState), plane.Reach (fun _ _ => True) off s →
      s.mode? mode = some m → m.status = .disconnected → m.clients = 0 := by
  intro hempty
  let s := plane.run (closing slow ++ [.event "wlan0" .apClientJoined, .event "wlan0" .ifDown]) off
  have hm : (s.mode? .accessPoint).any (fun m => m.status = .disconnected && m.clients = 1) = true := by
    decide +kernel
  obtain ⟨m, hm, hd⟩ := (Option.any_eq_true _ _).mp hm
  simp only [Bool.and_eq_true, decide_eq_true_eq] at hd
  have h0 := hempty s .accessPoint m (reach_any _ off) hm hd.1
  rw [hd.2] at h0
  cases h0

theorem closing_vacant :
    let s := plane.run (closing slow ++ [.event "wlan0" .apClientLeft, .event "wlan0" .ifDown]) off
    ∃ r, s.roster.modes = some r ∧ (r.get .accessPoint).status = .disconnected ∧
      (r.get .accessPoint).address = .unspecified ∧ (r.get .accessPoint).ifUp = false ∧
      (r.get .accessPoint).linkUp = false ∧ (r.get .accessPoint).apStarted = false ∧
      (r.get .accessPoint).serverRunning = false ∧ (r.get .accessPoint).client = none ∧
      (r.get .accessPoint).clients = 0 := by
  intro s
  have hm : s.roster.modes.any (fun r => (r.get .accessPoint).status = .disconnected) = true := by
    decide +kernel
  obtain ⟨r, hr, hd⟩ := (Option.any_eq_true _ _).mp hm
  have hd : (r.get .accessPoint).status = .disconnected := of_decide_eq_true hd
  have hs : plane.Reach (fun s mv => joinsLate s mv = false) off s := reach_run (by decide +kernel)
  obtain ⟨haddress, hi, hl, hap, hserver, hsession, hclients⟩ := reach_vacant hs hr hd
  exact ⟨r, hr, hd, haddress, hi, hl, hap, hserver, hsession, hclients (.inr fun _ _ h => h)⟩

end Camera

end Connectivity
