/-
  Connectivity.Proofs.Lights — the connection lights show what the normal mode does.
  - `Shows`: of the connection lights those are lit that belong to a status and a kind of interface.
  - `shown_answer`, `shown_stop`, …: after each move of the normal mode its lights are those of its state,
    whatever the platform answered.
  - `Turn.aside`: an access point that was never started leaves them alone.
  - `invariant_mirrored`: so they are right between moves, until an access point is started.
-/

import Connectivity.Proofs.Quiet
import Connectivity.Proofs.Resumption

namespace Connectivity

/-! ## Lights -/

/-- Whether a signal tells of a connection of the normal mode. -/
def Signal.tellsConnection : Signal → Bool
  | .connectingEthernet => true
  | .connectingWifi => true
  | .connectedEthernet => true
  | .connectedWifi => true
  | _ => false

theorem Signal.tellsConnection_of_error {x : Signal} (h : x.light = .error) : x.tellsConnection = false := by
  cases x <;> first | rfl | cases h

theorem connectingSignal_inj {kind kind' : InterfaceKind} :
    connectingSignal kind = connectingSignal kind' ↔ kind = kind' := by
  cases kind <;> cases kind' <;> decide

theorem connectedSignal_inj {kind kind' : InterfaceKind} :
    connectedSignal .normal kind = connectedSignal .normal kind' ↔ kind = kind' := by
  cases kind <;> cases kind' <;> decide

theorem connectingSignal_ne_connectedSignal (kind kind' : InterfaceKind) :
    connectingSignal kind ≠ connectedSignal .normal kind' := by
  cases kind <;> cases kind' <;> decide

namespace Indicator

theorem present_update (i : Indicator) (x : Signal) (on : Bool) : (i.update x on).present = i.present := by
  unfold update
  split <;> rfl

/-- The lights of a connection in a status, over a kind of interface. -/
structure Shows (i : Indicator) (status : Status) (kind? : Option InterfaceKind) : Prop where
  present : i.present = true
  connecting (kind : InterfaceKind) :
    i.shows (connectingSignal kind) = true ↔ status = .connecting ∧ kind? = some kind
  connected (kind : InterfaceKind) :
    i.shows (connectedSignal .normal kind) = true ↔ status = .connected ∧ kind? = some kind

/-- The lights of one kind of interface, while those of the other are off. -/
structure Lit (i : Indicator) (kind : InterfaceKind) (connecting connected : Bool) : Prop where
  present : i.present = true
  connecting : i.shows (connectingSignal kind) = connecting
  connected : i.shows (connectedSignal .normal kind) = connected
  dark (kind' : InterfaceKind) : kind' ≠ kind →
    i.shows (connectingSignal kind') = false ∧ i.shows (connectedSignal .normal kind') = false

section
variable {i : Indicator} {status : Status} {kind? : Option InterfaceKind} {kind : InterfaceKind} {a b : Bool}

theorem Lit.switchConnecting (h : i.Lit kind a b) (on : Bool) :
    (i.update (connectingSignal kind) on).Lit kind on b := by
  refine ⟨?_, ?_, ?_, fun kind' hk => ?_⟩
  · rw [present_update, h.present]
  · rw [shows_update h.present, if_pos rfl]
  · rw [shows_update h.present, if_neg (connectingSignal_ne_connectedSignal kind kind), h.connected]
  · rw [shows_update h.present, if_neg (mt connectingSignal_inj.mp hk.symm), shows_update h.present,
      if_neg (connectingSignal_ne_connectedSignal kind kind')]
    exact h.dark kind' hk

theorem Lit.switchConnected (h : i.Lit kind a b) (on : Bool) :
    (i.update (connectedSignal .normal kind) on).Lit kind a on := by
  refine ⟨?_, ?_, ?_, fun kind' hk => ?_⟩
  · rw [present_update, h.present]
  · rw [shows_update h.present, if_neg (connectingSignal_ne_connectedSignal kind kind).symm, h.connecting]
  · rw [shows_update h.present, if_pos rfl]
  · rw [shows_update h.present, if_neg (connectingSignal_ne_connectedSignal kind' kind).symm,
      shows_update h.present, if_neg (mt connectedSignal_inj.mp hk.symm)]
    exact h.dark kind' hk

theorem Lit.toShows (h : i.Lit kind (decide (status = .connecting)) (decide (status = .connected))) :
    i.Shows status (some kind) := by
  refine ⟨h.present, fun kind' => ?_, fun kind' => ?_⟩ <;> by_cases hk : kind' = kind
  · subst hk
    simp [h.connecting]
  · simp [h.dark kind' hk, Ne.symm hk]
  · subst hk
    simp [h.connected]
  · simp [h.dark kind' hk, Ne.symm hk]

namespace Shows

theorem lit (h : i.Shows status (some kind)) :
    i.Lit kind (decide (status = .connecting)) (decide (status = .connected)) := by
  refine ⟨h.present, ?_, ?_, fun kind' hk => ⟨?_, ?_⟩⟩
  · exact Bool.eq_iff_iff.mpr (by simp [h.connecting kind])
  · exact Bool.eq_iff_iff.mpr (by simp [h.connected kind])
  · simp [← Bool.not_eq_true, h.connecting kind', hk.symm]
  · simp [← Bool.not_eq_true, h.connected kind', hk.symm]

/-- A connection is made. -/
theorem connect (h : i.Shows status (some kind)) :
    ((i.update (connectingSignal kind) false).update (connectedSignal .normal kind) true).Shows .connected
      (some kind) :=
  ((h.lit.switchConnecting false).switchConnected true).toShows

/-- A connection is sought. -/
theorem seek (h : i.Shows status (some kind)) :
    ((i.update (connectedSignal .normal kind) false).update (connectingSignal kind) true).Shows .connecting
      (some kind) :=
  ((h.lit.switchConnected false).switchConnecting true).toShows

/-- Without an interface, or out of a connection, every light is off. -/
theorem of_dark (h : i.Shows status kind?) (hd : kind? = none ∨ status.isRunning = false)
    {status' : Status} {kind?' : Option InterfaceKind} (hd' : kind?' = none ∨ status'.isRunning = false) :
    i.Shows status' kind?' := by
  have hnot {s : Status} {k? : Option InterfaceKind} (hd : k? = none ∨ s.isRunning = false)
      (kind : InterfaceKind) :
      ¬ (s = .connecting ∧ k? = some kind) ∧ ¬ (s = .connected ∧ k? = some kind) := by
    rcases hd with rfl | hd
    · simp
    · constructor <;> rintro ⟨rfl, -⟩ <;> cases hd
  refine ⟨h.present, fun kind => ?_, fun kind => ?_⟩
  · exact iff_of_false (mt (h.connecting kind).mp (hnot hd kind).1) (hnot hd' kind).1
  · exact iff_of_false (mt (h.connected kind).mp (hnot hd kind).2) (hnot hd' kind).2

/-- A connection is given up. -/
theorem giveUp (h : i.Shows status (some kind)) {status' : Status} (hr : status'.isRunning = false) :
    ((i.update (connectingSignal kind) false).update (connectedSignal .normal kind) false).Shows status'
      (some kind) :=
  have hoff : Shows _ .disconnected (some kind) :=
    ((h.lit.switchConnecting false).switchConnected false).toShows
  hoff.of_dark (.inr rfl) (.inr hr)

theorem update (h : i.Shows status kind?) {x : Signal} (hx : x.tellsConnection = false) (on : Bool) :
    (i.update x on).Shows status kind? := by
  have hother (y : Signal) (hy : y.tellsConnection = true) : (i.update x on).shows y = i.shows y := by
    rw [shows_update h.present, if_neg]
    rintro rfl
    rw [hx] at hy
    cases hy
  refine ⟨?_, fun kind => ?_, fun kind => ?_⟩
  · rw [present_update, h.present]
  · rw [hother _ (by cases kind <;> rfl)]
    exact h.connecting kind
  · rw [hother _ (by cases kind <;> rfl)]
    exact h.connected kind

end Shows

end

end Indicator

/-! ## Links -/

variable {σ : Type} {P : Platform σ} {m m' : ModeState} {e e' : Env σ}

/-- The connection lights are those of the mode. -/
def Shown (x : ModeState × Env σ) : Prop := x.2.lights.Shows x.1.status x.1.carrierKind?

theorem Shown.of_eq (h : Shown (m, e)) (hs : m'.status = m.status) (hc : m'.carrierKind? = m.carrierKind?)
    (hl : e'.lights = e.lights) : Shown (m', e') := by
  simp only [Shown, hs, hc, hl]
  exact h

theorem Shown.signal (h : Shown (m, e)) {x : Signal} (hx : x.tellsConnection = false) (on : Bool) :
    Shown (m, e.signal x on) :=
  Indicator.Shows.update h hx on

namespace Link

theorem lights_setStatic (name : String) (texts : AddressTexts) (e : Env σ) :
    (setStatic P name texts e).2.lights = e.lights := by
  unfold setStatic
  split
  · rfl
  · split <;> rename_i hx
    · exact congrArg (·.2.lights) hx.symm
    · have h1 := congrArg (·.2.lights) hx.symm
      split <;> rename_i hy <;> exact (congrArg (·.2.lights) hy.symm).trans h1

theorem lights_attempt (name : String) (ask : Action σ Grant) (e : Env σ) :
    (attempt P name ask e).2.lights = e.lights := by
  unfold attempt
  split <;> rename_i hx
  · exact congrArg (·.2.lights) hx.symm
  · have h1 := congrArg (·.2.lights) hx.symm
    split
    · exact h1
    · split <;> rename_i hy <;> exact (congrArg (·.2.lights) hy.symm).trans h1

theorem lights_openSession (name : String) (e : Env σ) : (openSession P name e).2.lights = e.lights := by
  unfold openSession
  split <;> rename_i hx
  · exact congrArg (·.2.lights) hx.symm
  · exact congrArg (·.2.lights) hx.symm

theorem lights_bringUp (name : String) (setup : InterfaceSetup) (e : Env σ) :
    (bringUp P name setup e).2.lights = e.lights := by
  unfold bringUp
  split <;> rename_i hx
  · exact congrArg (·.2.lights) hx.symm
  · exact congrArg (·.2.lights) hx.symm

theorem lights_isDown (name : String) (e : Env σ) : (isDown P name e).2.lights = e.lights := by
  unfold isDown
  split <;> rename_i hx <;> exact congrArg (·.2.lights) hx.symm

theorem shown_becomeConnected (hm : m.mode = .normal) (h : Shown (m, e)) : Shown (becomeConnected m e) := by
  have hends {e : Env σ} (h : Shown ({ m with status := .connected }, e)) :
      Shown ({ m with status := .connected }, (e.signal .errorHardware false).signal .dhcpRecovering false) :=
    (h.signal rfl false).signal rfl false
  unfold becomeConnected
  cases hk : m.carrierKind? with
  | none =>
    have h : e.lights.Shows m.status none := hk ▸ h
    refine hends ?_
    show e.lights.Shows .connected m.carrierKind?
    rw [hk]
    exact h.of_dark (.inl rfl) (.inl rfl)
  | some kind =>
    have h : e.lights.Shows m.status (some kind) := hk ▸ h
    simp only [hm]
    refine hends ?_
    show Indicator.Shows _ .connected m.carrierKind?
    rw [hk]
    exact h.connect

theorem shown_assignStatic (name : String) (hm : m.mode = .normal) (h : Shown (m, e)) :
    Shown (assignStatic P name m e) := by
  have hl := lights_setStatic (P := P) name m.parameters.normal.ip e
  unfold assignStatic
  split <;> rename_i hx <;> rw [hx] at hl
  · exact shown_becomeConnected hm (h.of_eq rfl rfl hl)
  · exact (h.of_eq rfl rfl hl).signal rfl true

theorem shown_askForLease (name : String) (hm : m.mode = .normal) (h : Shown (m, e)) :
    Shown (askForLease P name m e) := by
  unfold askForLease
  split
  · exact h
  · rename_i c _
    have hl := lights_attempt (P := P) name (P.request c.session) e
    split <;> rename_i hx <;> rw [hx] at hl
    · exact shown_becomeConnected hm (h.of_eq rfl rfl hl)
    · exact (h.of_eq rfl rfl hl).signal rfl true

theorem shown_extendLease (name : String) (mode : Renewal) (h : Shown (m, e)) :
    Shown (extendLease P name mode m e) := by
  unfold extendLease
  split
  · exact h
  · rename_i c _
    have hl := lights_attempt (P := P) name (P.renew c.session mode) e
    split <;> rename_i hx <;> rw [hx] at hl <;> exact h.of_eq rfl rfl hl

theorem shown_assignLease (name : String) (hm : m.mode = .normal) (h : Shown (m, e)) :
    Shown (assignLease P name m e) := by
  unfold assignLease
  split
  · split <;> rename_i hx <;> have hl := congrArg (·.2.lights) hx.symm
    · exact shown_becomeConnected hm (h.of_eq rfl rfl hl)
    · exact (h.of_eq rfl rfl hl).signal rfl true
  · split
    · exact shown_askForLease name hm h
    · have hl := lights_openSession (P := P) name e
      split <;> rename_i hx <;> rw [hx] at hl
      · exact (h.of_eq rfl rfl hl).signal rfl true
      · exact shown_askForLease name hm (h.of_eq rfl rfl hl)

/-- The mode seeks a connection, and its lights say so. -/
theorem shown_seek (hm : m.mode = .normal) (h : Shown (m, e)) :
    Shown ({ m with status := .connecting },
      match m.carrierKind? with
      | some kind => (e.signal (connectedSignal m.mode kind) false).signal (connectingSignal kind) true
      | none => e) := by
  show Indicator.Shows _ .connecting m.carrierKind?
  cases hk : m.carrierKind? with
  | none =>
    have h : e.lights.Shows m.status none := hk ▸ h
    exact h.of_dark (.inl rfl) (.inl rfl)
  | some kind =>
    have h : e.lights.Shows m.status (some kind) := hk ▸ h
    simp only [hm]
    exact h.seek

theorem shown_startOver (name : String) (hm : m.mode = .normal) (h : Shown (m, e)) :
    Shown (startOver P name m e) := by
  have hset : Shown (m, (e.perform (P.setAddress name .unspecified)).2) := h
  have hseek := (shown_seek hm hset).signal (x := .dhcpRecovering) rfl true
  exact shown_askForLease name hm (hseek.of_eq rfl rfl rfl)

theorem shown_gainLink (hm : m.mode = .normal) (h : Shown (m, e)) : Shown (gainLink P m e) := by
  unfold gainLink
  split
  · exact h
  · split
    · exact shown_assignStatic _ hm h
    · exact shown_assignLease _ hm h

theorem shown_loseLink (hm : m.mode = .normal) (h : Shown (m, e)) : Shown (loseLink P m e) := by
  -- To hang up is a call, and no light.
  have hlost (e' : Env σ) (hl : e'.lights = e.lights) :
      Shown (loseLink P { m with client := none } e') := by
    have hhung : Shown (m, e') := h.of_eq rfl rfl hl
    simp only [loseLink]
    split
    · have hseek := shown_seek hm hhung
      split <;> rename_i hk <;> simp only [show m.carrierKind? = _ from hk] at hseek
      · exact hseek.of_eq rfl rfl rfl
      · exact hseek.of_eq rfl rfl rfl
    · exact hhung.of_eq rfl rfl rfl
  cases hc : m.client with
  | none =>
    have hnone : loseLink P m e = loseLink P { m with client := none } e := by simp only [loseLink, hc]
    rw [hnone]
    exact hlost e rfl
  | some c =>
    have hsome : loseLink P m e = loseLink P { m with client := none } (hangUp P c.session e) := by
      simp only [loseLink, hc]
    rw [hsome]
    exact hlost _ rfl

theorem shown_restart (h : Shown (m, e)) : Shown (restart P m e) := by
  unfold restart
  split
  · exact h
  · split <;> rename_i hx <;> have hl := congrArg (·.2.lights) hx.symm
    · exact h.of_eq rfl rfl hl
    · exact ((h.of_eq rfl rfl hl).signal rfl true).of_eq rfl rfl rfl

theorem shown_tick (retry : Nat) (hm : m.mode = .normal) (h : Shown (m, e)) : Shown (tick P retry m e) := by
  unfold tick
  split
  · exact h
  · split
    · split
      · exact h
      · split
        · exact shown_askForLease _ hm h
        · exact h
      · split
        · exact shown_extendLease _ _ h
        · exact h
      · exact shown_startOver _ hm h
    · exact h

theorem shows_start_error {kind : InterfaceKind} {p : Parameters} {err : Error} {status : Status}
    {kind? : Option InterfaceKind} (h : e.lights.Shows status kind?)
    (hs : start P kind p m e = (.error err, m', e')) : e'.lights.Shows status kind? := by
  unfold start at hs
  split at hs
  · cases hs
    exact h
  · rename_i i _
    split at hs
    · cases hs
      exact h
    · rename_i setup _
      have hl := lights_bringUp (P := P) i.name setup e
      split at hs <;> rename_i hx <;> cases hs
      rw [hx] at hl
      exact Indicator.Shows.update (hl ▸ h) rfl true

theorem lights_start_ok {kind : InterfaceKind} {p : Parameters}
    (hs : start P kind p m e = (.ok (), m', e')) :
    e'.lights = e.lights.update (connectingSignal kind) true := by
  unfold start at hs
  split at hs
  · cases hs
  · rename_i i _
    split at hs
    · cases hs
    · rename_i setup _
      have hl := lights_bringUp (P := P) i.name setup e
      split at hs <;> rename_i hx <;> cases hs
      rw [hx] at hl
      exact congrArg (·.update (connectingSignal kind) true) hl

theorem shown_start {kind : InterfaceKind} {p : Parameters} (h : Shown (m, e)) (hd : m.status = .disconnected)
    (hs : start P kind p m.cleared e = (.ok (), m', e')) :
    Shown ({ m' with saved := some p, status := .connecting }, e') := by
  have h : e.lights.Shows m.status m.carrierKind? := h
  have hdark : e.lights.Shows .disconnected (some kind) := h.of_dark (.inr (by rw [hd]; rfl)) (.inr rfl)
  obtain ⟨i, -, rfl⟩ := start_ok P hs
  show e'.lights.Shows .connecting (some kind)
  rw [lights_start_ok hs]
  exact (hdark.lit.switchConnecting true).toShows

theorem lights_tearDown (carrier : Carrier) (m : ModeState) (e : Env σ) :
    (tearDown P carrier m e).2.lights =
      (e.lights.update (connectingSignal carrier.kind) false).update (connectedSignal m.mode carrier.kind)
        false := by
  have hserver (e : Env σ) :
      (if m.serverRunning then (e.perform (P.stopServer carrier.name)).2 else e).lights = e.lights := by
    split <;> rfl
  simp only [tearDown]
  generalize hx : isDown P carrier.name _ = x
  have hl : x.2.lights = e.lights := by
    rw [← hx, lights_isDown]
    cases m.client <;> exact hserver e
  simp only [Env.signal, hl]
  split <;> rfl

theorem shown_tearDown {carrier : Carrier} (hm : m.mode = .normal) (hc : m.carrier = some carrier)
    (h : Shown (m, e)) : Shown (tearDown P carrier m e) := by
  have hk : m.carrierKind? = some carrier.kind := by
    rw [ModeState.carrierKind?, hc]
    rfl
  have h : e.lights.Shows m.status (some carrier.kind) := hk ▸ h
  obtain ⟨down, ht⟩ := tearDown_fst P carrier m e
  rw [Shown, ht, lights_tearDown, hm]
  show Indicator.Shows _ (if down then .disconnected else .disconnecting) m.carrierKind?
  rw [hk]
  exact h.giveUp (by cases down <;> rfl)

theorem shown_stop (hm : m.mode = .normal) (h : Shown (m, e)) : Shown (stop P m e).2 := by
  unfold stop
  split
  · rename_i hc
    have h : e.lights.Shows m.status m.carrierKind? := h
    have hk : m.carrierKind? = none := by rw [ModeState.carrierKind?, hc]; rfl
    exact h.of_dark (.inl hk) (.inl hk)
  · rename_i c hc
    have hstop (answer : Except PlatformError Unit) (e₁ : Env σ)
        (hx : e.perform (P.stop c.name) = (answer, e₁)) : Shown (m, e₁) :=
      h.of_eq rfl rfl (congrArg (·.2.lights) hx.symm)
    split <;> rename_i hx
    · exact shown_tearDown hm hc (hstop _ _ hx)
    · split
      · exact shown_tearDown hm hc (hstop _ _ hx)
      · exact (hstop _ _ hx).signal rfl true

end Link

/-! ## Events -/

namespace Dispatch

theorem shown_bothUp (hm : m.mode = .normal) (h : Shown (m, e)) : Shown (bothUp P m e) := by
  unfold bothUp
  split
  · exact Link.shown_gainLink hm h
  · exact h

theorem shown_settled (hs : m.status = .disconnecting) (h : Shown (m, e)) : Shown (settled m, e) := by
  have h : e.lights.Shows m.status m.carrierKind? := h
  exact h.of_dark (.inr (by rw [hs]; rfl)) (.inr rfl)

theorem shown_ethernet (event : Event) (hm : m.mode = .normal) (h : Shown (m, e)) :
    Shown (ethernet P event m e) := by
  have hflags (ifUp linkUp : Bool) : Shown ({ m with ifUp, linkUp }, e) := h
  unfold ethernet
  split
  · exact shown_bothUp hm (hflags true m.linkUp)
  · exact shown_bothUp hm (hflags m.ifUp true)
  · exact Link.shown_loseLink hm (hflags false false)
  · exact Link.shown_loseLink hm (hflags m.ifUp false)
  · exact h

theorem shown_station (event : Event) (hm : m.mode = .normal) (h : Shown (m, e)) :
    Shown (station P event m e) := by
  have hflags (ifUp linkUp : Bool) : Shown ({ m with ifUp, linkUp }, e) := h
  have hlost (ifUp linkUp : Bool) : Shown (Link.loseLink P { m with ifUp, linkUp } e) :=
    Link.shown_loseLink hm (hflags ifUp linkUp)
  unfold station
  split
  · simp only
    split
    · exact Link.shown_gainLink hm (hflags true true)
    · exact hflags true true
  · simp only
    split
    · exact Link.shown_restart (hlost m.ifUp false)
    · exact hlost m.ifUp false
  · simp only
    split
    · rename_i hs
      exact shown_settled hs (hflags false false)
    · exact Link.shown_restart (hlost false false)
  · exact hlost m.ifUp false
  · exact hlost m.ifUp false
  · exact h

/-- The normal mode's answer to any event. -/
theorem shown_answer (retry : Nat) (event : Event) (hm : m.mode = .normal) (h : Shown (m, e)) :
    Shown (answer P retry event m e) := by
  have hkind (event : Event) : Shown (byKind P event m e) := by
    unfold byKind
    rw [hm]
    cases m.carrierKind? with
    | none => exact h
    | some kind =>
      cases kind with
      | ethernet => exact shown_ethernet event hm h
      | wifi => exact shown_station event hm h
  unfold answer
  split
  · exact Link.shown_tick retry hm h
  · split
    · rename_i hs
      exact shown_settled hs h
    · exact hkind _
  · exact hkind _

end Dispatch

/-! ## Both modes -/

namespace ControlPlane

variable {τ : Type} {M : ControlPlane σ τ} {cap : Bool} {x y : ModeState × Env σ}

theorem Turn.shown (h : M.Turn cap x y) (hm : x.1.mode = .normal) (hx : Shown x) : Shown y := by
  have hrefresh {m : ModeState} {e : Env σ} (h : Shown (m, e)) : Shown (m.refresh.2, e) := by
    rw [ModeState.refresh_snd]
    exact h
  cases h with
  | listening => exact hx
  | answered name event => exact hrefresh (Dispatch.shown_answer M.policy.retryNanos event hm hx)
  | gaveBack => exact hx
  | @notStarted m _ _ _ _ _ _ hd hs =>
    obtain rfl := Link.start_error _ hs
    have hx : Indicator.Shows _ m.status m.carrierKind? := hx
    have hdark : m.status.isRunning = false := by
      rw [hd]
      rfl
    exact (Link.shows_start_error hx hs).of_dark (.inr hdark) (.inl rfl)
  | started hd _ hs => exact hrefresh (Link.shown_start hx hd hs)
  | stopped => exact hrefresh (Link.shown_stop hm hx)

/-- A mode that is disconnected, and has never been started, leaves the connection lights alone. -/
theorem Turn.aside (h : M.Turn cap x y) (hd : x.1.status = .disconnected) (hs : y.1.saved = none) :
    y.1.status = .disconnected ∧
      ∀ status kind?, x.2.lights.Shows status kind? → y.2.lights.Shows status kind? := by
  cases h with
  | listening => exact ⟨hd, fun _ _ => id⟩
  | answered _ _ ha => exact absurd hd (ModeState.accepts_iff.mp ha).1
  | gaveBack _ ha => exact absurd hd (ModeState.accepts_iff.mp ha).1
  | notStarted hd hst =>
    obtain rfl := Link.start_error _ hst
    exact ⟨hd, fun _ _ h => Link.shows_start_error h hst⟩
  | started =>
    rw [ModeState.refresh_snd] at hs
    cases hs
  | stopped hr => exact absurd hd (Status.ne_of_isRunning hr)

/-- The lights before modes are set up are off, and afterwards show the normal mode, as long as the
    access point has never been started. -/
structure Mirrored (v : Option Modes × Env σ) : Prop where
  off : v.1 = none → v.2.lights.Shows .disconnected none
  shown (r : Modes) : v.1 = some r → r.accessPoint.saved = none →
    r.accessPoint.status = .disconnected ∧ Shown (r.normal, v.2)

theorem Asked.shows {e e' : Env σ} (h : Asked M.platform e e') {status : Status}
    {kind? : Option InterfaceKind} (hl : e.lights.Shows status kind?) : e'.lights.Shows status kind? := by
  cases h with
  | signal x on hx => exact hl.update (Signal.tellsConnection_of_error hx) on
  | _ => exact hl

theorem Change.mirrored {v v' : Option Modes × Env σ} (h : M.Change cap v v')
    (hl : ∀ r, v.1 = some r → r.Labelled) (hv : Mirrored v) : Mirrored v' := by
  cases h with
  | @turn r e x mode ht =>
    refine ⟨nofun, ?_⟩
    rintro _ ⟨⟩ hs
    cases mode with
    | normal =>
      obtain ⟨hd, hshown⟩ := hv.shown r rfl hs
      exact ⟨hd, ht.shown (hl r rfl .normal) hshown⟩
    | accessPoint =>
      have hs : x.1.saved = none := hs
      have hs₀ : r.accessPoint.saved = none := by
        rcases ht.saved with hsame | ⟨p, _, _, _, hp, -⟩
        · exact hsame.symm.trans hs
        · rw [hs] at hp
          cases hp
      obtain ⟨hd, hshown⟩ := hv.shown r rfl hs₀
      obtain ⟨hd', haside⟩ := ht.aside hd hs
      exact ⟨hd', haside _ _ hshown⟩
  | asked ha => exact ⟨fun hn => ha.shows (hv.off hn), fun r hr hs => (hv.shown r hr hs).imp_right ha.shows⟩
  | @fresh interfaces r e hi =>
    refine ⟨nofun, ?_⟩
    rintro _ ⟨⟩ -
    obtain ⟨_, _, hap⟩ := get_ofInterfaces? hi .accessPoint
    obtain ⟨_, _, hn⟩ := get_ofInterfaces? hi .normal
    have hap : r.accessPoint = _ := hap
    have hn : r.normal = _ := hn
    rw [hap, hn]
    exact ⟨rfl, hv.off rfl⟩

theorem invariant_mirrored : M.Invariant (M.Unstarted .accessPoint) Mirrored where
  change _ h hl hv := h.mirrored hl hv
  outside _ hv := ⟨hv.off, hv.shown⟩
  gone hok hd _ := absurd hd hok

/-! ## Runs -/

variable {s : State σ τ} {r r' : Modes} {mode : Mode}

theorem saved_reaction (m : ModeState) (name : String) (event : Event) (e : Env σ) :
    (M.reaction name event m e).1.saved = m.saved := by
  unfold reaction
  split
  · split
    · cases m.client <;> rfl
    · simp only [ModeState.refresh_snd]
      exact ModeState.saved_of_fixed (Dispatch.fixed_answer M.platform M.policy.retryNanos event m e)
  · rfl

/-- What a mode has saved stays until a start of it succeeds. -/
theorem saved_step (hl : ∀ r, s.roster.modes = some r → r.Labelled) (hr : s.roster.modes = some r)
    {mv : Move σ τ} (hok : M.Unstarted mode s mv) (hr' : (M.step mv s).roster.modes = some r') :
    (r'.get mode).saved = (r.get mode).saved := by
  by_cases hcalm : mv.isCalm = true
  · obtain ⟨b, hb⟩ := calm_step (hl r hr) hr hcalm hr' mode
    rw [hb]
  · cases mv with
    | start hd source =>
      have hr' : (M.start hd source s).2.roster.modes = some r' := hr'
      rcases start_cases (M := M) hl hd source with ⟨_, -, hsame⟩ | ⟨mode₀, r₀, m, hm, hr₀, -, hmodes, hcases⟩
      · obtain rfl : r = r' := Option.some.inj ((hsame.trans hr).symm.trans hr')
        rfl
      · obtain rfl : r = r₀ := Option.some.inj (hr.symm.trans hr₀)
        obtain rfl : r.set mode₀ m = r' := Option.some.inj (hmodes.symm.trans hr')
        rw [Modes.get_set]
        split
        · rename_i heq
          subst heq
          rcases hcases with ⟨-, rfl⟩ | ⟨hstarted, -⟩
          · rfl
          · exact absurd hstarted (hok hm)
        · rfl
    | stop hd =>
      have hgiven {r₁ : Modes} (hsur : Surrendered r r₁) : (r₁.get mode).saved = (r.get mode).saved := by
        rcases hsur mode with hget | hget <;> rw [hget]
      rcases modes_stop hl hr hd with ⟨_, r₁, -, hsur, hv⟩ | ⟨mode₀, r₁, e, x, -, -, hsur, hx, -, hv⟩
      · obtain rfl : r₁ = r' := Option.some.inj (hv.symm.trans hr')
        exact hgiven hsur
      · obtain rfl : r₁.set mode₀ x.2.1.refresh.2 = r' := Option.some.inj (hv.symm.trans hr')
        rw [Modes.get_set]
        split
        · rename_i heq
          subst heq
          rw [ModeState.refresh_snd, ← hx]
          exact (ModeState.saved_of_fixed (Link.fixed_stop M.platform _ e)).trans (hgiven hsur)
        · exact hgiven hsur
    | event name event =>
      obtain ⟨r'', hr'', hget⟩ := modes_receive (M := M) hr name event
      obtain rfl : r'' = r' := Option.some.inj (hr''.symm.trans hr')
      obtain ⟨e, he⟩ := hget mode
      rw [he]
      exact saved_reaction _ name event e
    | _ => exact absurd rfl hcalm

theorem reach_unsaved {s₀ : State σ τ} (hn : s₀.roster.modes = none) (hs : M.Reach (M.Unstarted mode) s₀ s) :
    ∀ r, s.roster.modes = some r → (r.get mode).saved = none := by
  induction hs with
  | refl => simp [hn]
  | @step s mv hs hok ih =>
    intro r' hr'
    cases hr : s.roster.modes with
    | none =>
      obtain ⟨interfaces, hi⟩ := fresh_step hr mv hr'
      obtain ⟨_, _, hnew⟩ := get_ofInterfaces? hi mode
      rw [hnew]
    | some r => exact (saved_step (hs.labelled hn) hr hok hr').trans (ih r hr)

/-- Whatever is called, whatever events arrive and whatever the platform answers, without an end of the
    modes and without a start of the access point that succeeds: of the connection lights, all off at
    first, between moves exactly that one is lit which says that the normal mode is connecting, or that it
    is connected, over the kind of interface it uses. -/
theorem reach_lit {env : Env σ} {store : τ} (hp : env.lights.present = true)
    (hoff : ∀ x, env.lights.shows x = false)
    (hs : M.Reach (M.Unstarted .accessPoint) (M.initial env store) s) (hr : s.roster.modes = some r)
    (kind : InterfaceKind) :
    (s.env.lights.shows (connectingSignal kind) = true ↔
      r.normal.status = .connecting ∧ r.normal.carrierKind? = some kind) ∧
    (s.env.lights.shows (connectedSignal .normal kind) = true ↔
      r.normal.status = .connected ∧ r.normal.carrierKind? = some kind) := by
  have hdark : env.lights.Shows .disconnected none := ⟨hp, by simp [hoff], by simp [hoff]⟩
  have hnone (r : Modes) : (M.initial env store).roster.modes ≠ some r := nofun
  have hmirrored : Mirrored (M.initial env store).view := ⟨fun _ => hdark, fun r h => absurd h (hnone r)⟩
  have hheld := (hs.holds invariant_mirrored (fun r h => absurd h (hnone r)) hmirrored).1
  obtain ⟨-, hshown⟩ := hheld.shown r hr (reach_unsaved rfl hs r hr)
  exact ⟨hshown.connecting kind, hshown.connected kind⟩

end ControlPlane

namespace Camera

open Simulation ControlPlane

/-- The lease runs out and no server answers, so that the normal mode seeks its connection again. -/
def lapse : List (Move Board Shelf) :=
  let mute (b : Board) : Board :=
    { b with inner := { b.inner with script := [.error (.dhcp "request" .timeout "no answer")] } }
  join ++ [.outside mute id (86400 * second), .event "wlan0" .tick]

theorem lapse_lit :
    let s := plane.run lapse off
    ∃ r, s.roster.modes = some r ∧ r.normal.status = .connecting ∧ r.normal.carrierKind? = some .wifi ∧
      ∀ kind,
        (s.env.lights.shows (connectingSignal kind) = true ↔
          r.normal.status = .connecting ∧ r.normal.carrierKind? = some kind) ∧
        (s.env.lights.shows (connectedSignal .normal kind) = true ↔
          r.normal.status = .connected ∧ r.normal.carrierKind? = some kind) := by
  intro s
  have hm : s.roster.modes.any (fun r =>
      r.normal.status = .connecting && r.normal.carrierKind? = some .wifi) = true := by decide +kernel
  obtain ⟨r, hr, hd⟩ := (Option.any_eq_true _ _).mp hm
  simp only [Bool.and_eq_true, decide_eq_true_eq] at hd
  have hstart : (plane.run switchOn off).roster.modeOf normal ≠ .ok .accessPoint := by decide +kernel
  have hs : plane.Reach (plane.Unstarted .accessPoint) off s :=
    reach_run ⟨trivial, trivial, trivial, fun hm => absurd hm hstart, trivial, trivial, trivial, trivial⟩
  exact ⟨r, hr, hd.1, hd.2, reach_lit rfl (fun _ => rfl) hs hr⟩

end Camera

end Connectivity
