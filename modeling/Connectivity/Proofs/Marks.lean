/-
  Connectivity.Proofs.Marks — what a mode does to the lights.
  - `Indicator.Within`: lights that differ in some signals at most.
  - `Mode.mark`: besides the lights of its own connection and of errors each mode has one that it leaves
    behind, and touches no other (`ModeState.touches`).
  - `tends_reaction`: the normal mode's mark is lit while its lease is lost, and goes out when it is connected.
  - `rises_reaction`: the access point's mark is lit once it is up.
-/

import Connectivity.Proofs.Lights
import Connectivity.Proofs.Upkeep

namespace Connectivity

/-! ## Lights -/

/-- The light that a mode leaves behind. -/
def Mode.mark : Mode → Signal
  | .normal => .dhcpRecovering
  | .accessPoint => .apStarted

theorem Signal.light_of_tells {x : Signal} (h : x.tellsConnection = true) : x.light = .connection := by
  cases x <;> first | rfl | cases h

theorem Mode.light_mark (mode : Mode) : mode.mark.light = .connection := by
  cases mode <;> rfl

theorem Mode.tells_mark (mode : Mode) : mode.mark.tellsConnection = false := by
  cases mode <;> rfl

theorem Mode.mark_inj {mode mode' : Mode} : mode.mark = mode'.mark ↔ mode = mode' := by
  cases mode <;> cases mode' <;> decide

theorem tells_connectingSignal (kind : InterfaceKind) : (connectingSignal kind).tellsConnection = true := by
  cases kind <;> rfl

theorem tells_connectedSignal (mode : Mode) (kind : InterfaceKind) :
    (connectedSignal mode kind).tellsConnection = true := by
  cases mode <;> cases kind <;> rfl

namespace Indicator

/-- Whether a light is on. A board without lights shows none. -/
def lit (i : Indicator) (x : Signal) : Bool := i.present && i.shows x

theorem lit_update (i : Indicator) (x y : Signal) (on : Bool) :
    (i.update x on).lit y = if x = y then i.present && on else i.lit y := by
  cases hp : i.present with
  | false => simp [lit, update, hp]
  | true =>
    rw [lit, lit, present_update, shows_update hp, hp]
    split <;> rfl

theorem lit_update_self (i : Indicator) (x : Signal) (on : Bool) : (i.update x on).lit x = (i.present && on) := by
  rw [lit_update, if_pos rfl]

theorem lit_update_of_ne (i : Indicator) {x y : Signal} (h : x ≠ y) (on : Bool) :
    (i.update x on).lit y = i.lit y := by
  rw [lit_update, if_neg h]

/-- Lights that differ in some signals at most. -/
structure Within (own : Signal → Prop) (i i' : Indicator) : Prop where
  present : i'.present = i.present
  same : ∀ x, ¬ own x → i'.lit x = i.lit x

namespace Within

variable {own own' : Signal → Prop} {i i' i'' : Indicator}

theorem refl (i : Indicator) : Within own i i := ⟨rfl, fun _ _ => rfl⟩

theorem of_eq (h : i' = i) : Within own i i' := h ▸ refl i'

theorem trans (h : Within own i i') (h' : Within own i' i'') : Within own i i'' :=
  ⟨h'.present.trans h.present, fun x hx => (h'.same x hx).trans (h.same x hx)⟩

theorem mono (h : Within own i i') (ho : ∀ x, own x → own' x) : Within own' i i' :=
  ⟨h.present, fun x hx => h.same x (mt (ho x) hx)⟩

theorem update (h : Within own i i') {x : Signal} (hx : own x) (on : Bool) : Within own i (i'.update x on) := by
  refine ⟨(present_update i' x on).trans h.present, fun y hy => ?_⟩
  rw [lit_update_of_ne i' (by rintro rfl; exact hy hx)]
  exact h.same y hy

/-- One more error is shown. -/
theorem error (h : Within (fun x => x.light = .error) i i') {x : Signal} (hx : x.light = .error) :
    Within (fun x => x.light = .error) i (i'.update x true) := h.update hx true

end Within

end Indicator

namespace ModeState

variable {m : ModeState} {x : Signal}

/-- The signals of a mode's connection over its interface. -/
def uses (m : ModeState) (x : Signal) : Prop :=
  ∃ kind, m.carrierKind? = some kind ∧ (x = connectingSignal kind ∨ x = connectedSignal m.mode kind)

/-- A mode that is running over an interface has these signals lit, if any. -/
def glows (m : ModeState) (x : Signal) : Prop := m.status.isRunning = true ∧ m.uses x

/-- The signals that a mode switches and leaves no mark with: its own, and errors. -/
def minds (m : ModeState) (x : Signal) : Prop := x.light = .error ∨ m.uses x

def touches (m : ModeState) (x : Signal) : Prop := m.minds x ∨ x = m.mode.mark

theorem tells_of_uses (h : m.uses x) : x.tellsConnection = true := by
  obtain ⟨kind, -, rfl | rfl⟩ := h
  · exact tells_connectingSignal kind
  · exact tells_connectedSignal m.mode kind

theorem not_minds_mark (m : ModeState) (mode : Mode) : ¬ m.minds mode.mark := by
  rintro (he | hu)
  · rw [mode.light_mark] at he
    cases he
  · have htells := tells_of_uses hu
    rw [mode.tells_mark] at htells
    cases htells

theorem minds_connecting {kind : InterfaceKind} (hk : m.carrierKind? = some kind) :
    m.minds (connectingSignal kind) :=
  .inr ⟨kind, hk, .inl rfl⟩

theorem minds_connected {kind : InterfaceKind} (hk : m.carrierKind? = some kind) :
    m.minds (connectedSignal m.mode kind) :=
  .inr ⟨kind, hk, .inr rfl⟩

/-- A light that tells of a connection is touched by a mode only if it is its own. -/
theorem not_touches (hx : x.tellsConnection = true) (hu : ¬ m.uses x) : ¬ m.touches x := by
  rintro ((he | hown) | rfl)
  · rw [Signal.light_of_tells hx] at he
    cases he
  · exact hu hown
  · rw [m.mode.tells_mark] at hx
    cases hx

end ModeState

variable {σ τ : Type} {P : Platform σ} {m m' : ModeState} {e e' : Env σ}

/-! ## The normal mode -/

/-- While the normal mode is connected its lease is not being recovered. -/
def Regained (x : ModeState × Env σ) : Prop :=
  x.1.status = .connected → x.2.lights.lit .dhcpRecovering = false

/-- What the normal mode does to the lights `i`, of which it may touch `own`. Its mark goes out when it is
    connected, and is lit when it has `lost` its lease and is not connected. -/
structure Tends (own : Signal → Prop) (i : Indicator) (lost : Bool) (y : ModeState × Env σ) : Prop where
  within : i.Within own y.2.lights
  mark : y.2.lights.lit .dhcpRecovering =
    (decide (y.1.status ≠ .connected) && (i.lit .dhcpRecovering || lost && i.present))

section
variable {i : Indicator} {lost : Bool} {y : ModeState × Env σ}

/-- A mode that leaves its mark alone. -/
theorem Tends.passing (h : i.Within m.minds y.2.lights)
    (hr : y.1.status = .connected → i.lit .dhcpRecovering = false) (hl : lost = true → y.1.status = .connected) :
    Tends m.touches i lost y := by
  refine ⟨h.mono fun _ => .inl, ?_⟩
  rw [h.same .dhcpRecovering (m.not_minds_mark .normal)]
  by_cases hc : y.1.status = .connected
  · simp [hc, hr hc]
  · have hkept : lost = false := eq_false_of_ne_true (mt hl hc)
    simp [hc, hkept]

/-- A mode that stays in its status. -/
theorem Tends.same (h : e.lights.Within m.minds y.2.lights) (hr : Regained (m, e)) (hs : y.1.status = m.status) :
    Tends m.touches e.lights false y :=
  .passing h (fun hc => hr (hs ▸ hc)) nofun

/-- An error is shown. -/
theorem Tends.failed (h : Tends m.touches i lost (m', e')) {x : Signal} (hx : x.light = .error) :
    Tends m.touches i lost (m', e'.signal x true) := by
  refine ⟨h.within.update (.inl (.inl hx)) true, ?_⟩
  have hne : x ≠ .dhcpRecovering := by
    rintro rfl
    cases hx
  exact (Indicator.lit_update_of_ne _ hne true).trans h.mark

/-- A mode's callback is told. -/
theorem Tends.refresh (h : Tends m.touches i lost y) : Tends m.touches i lost (y.1.refresh.2, y.2) := by
  rw [ModeState.refresh_snd]
  exact ⟨h.within, h.mark⟩

theorem Tends.regained (h : Tends m.touches i lost y) : Regained y := by
  intro hs
  rw [h.mark, decide_eq_false (not_not.mpr hs), Bool.false_and]

end

namespace Link

theorem tends_becomeConnected (hm : m.mode = .normal) (e : Env σ) :
    Tends m.touches e.lights false (becomeConnected m e) := by
  have hends {e' : Env σ} (h : e.lights.Within m.touches e'.lights) :
      Tends m.touches e.lights false
        ({ m with status := .connected }, (e'.signal .errorHardware false).signal .dhcpRecovering false) := by
    refine ⟨(h.update (.inl (.inl rfl)) false).update (.inr (by rw [hm]; rfl)) false, ?_⟩
    simp [Env.signal, Indicator.lit_update_self]
  unfold becomeConnected
  cases hk : m.carrierKind? with
  | none => exact hends (.refl _)
  | some kind =>
    exact hends (((Indicator.Within.refl _).update (.inl (m.minds_connecting hk)) false).update
      (.inl (m.minds_connected hk)) true)

theorem tends_assignStatic (name : String) (hm : m.mode = .normal) (hr : Regained (m, e)) :
    Tends m.touches e.lights false (assignStatic P name m e) := by
  have hl := lights_setStatic (P := P) name m.parameters.normal.ip e
  unfold assignStatic
  split <;> rename_i hx <;> rw [hx] at hl
  · rename_i address e₁
    have h := tends_becomeConnected (m := { m with address }) hm e₁
    rw [show e₁.lights = e.lights from hl] at h
    exact h
  · exact (Tends.same (.of_eq hl) hr rfl).failed rfl

theorem tends_askForLease (name : String) (hm : m.mode = .normal) (hr : Regained (m, e)) :
    Tends m.touches e.lights false (askForLease P name m e) := by
  unfold askForLease
  split
  · exact .same (.refl _) hr rfl
  · rename_i c _
    have hl := lights_attempt (P := P) name (P.request c.session) e
    split <;> rename_i hx <;> rw [hx] at hl
    · rename_i g timers e₁
      have h := tends_becomeConnected
        (m := { m with client := some (c.granted timers e₁.now), address := g.addressing }) hm e₁
      rw [show e₁.lights = e.lights from hl] at h
      exact h
    · exact (Tends.same (.of_eq hl) hr rfl).failed rfl

theorem tends_extendLease (name : String) (mode : Renewal) {lost : Bool} (hr : Regained (m, e))
    (hs : m.status = .connected) : Tends m.touches e.lights lost (extendLease P name mode m e) := by
  unfold extendLease
  split
  · exact .passing (.refl _) hr fun _ => hs
  · rename_i c _
    have hl := lights_attempt (P := P) name (P.renew c.session mode) e
    split <;> rename_i hx <;> rw [hx] at hl <;> exact .passing (.of_eq hl) hr fun _ => hs

theorem tends_assignLease (name : String) (hm : m.mode = .normal) (hr : Regained (m, e)) :
    Tends m.touches e.lights false (assignLease P name m e) := by
  unfold assignLease
  split
  · split <;> rename_i hx <;> have hl := congrArg (·.2.lights) hx.symm
    · rename_i e₁
      have h := tends_becomeConnected hm e₁
      rw [show e₁.lights = e.lights from hl] at h
      exact h
    · exact (Tends.same (.of_eq hl) hr rfl).failed rfl
  · split
    · exact tends_askForLease name hm hr
    · have hl := lights_openSession (P := P) name e
      split <;> rename_i hx <;> rw [hx] at hl
      · exact (Tends.same (.of_eq hl) hr rfl).failed rfl
      · rename_i id e₁
        have hl : e₁.lights = e.lights := hl
        have h := tends_askForLease (P := P) (m := { m with client := some { session := id } }) (e := e₁) name hm
          (fun hc => hl ▸ hr hc)
        rw [hl] at h
        exact h

theorem tends_gainLink (hm : m.mode = .normal) (hr : Regained (m, e)) :
    Tends m.touches e.lights false (gainLink P m e) := by
  unfold gainLink
  split
  · exact .same (.refl _) hr rfl
  · split
    · exact tends_assignStatic _ hm hr
    · exact tends_assignLease _ hm hr

/-- The lease is lost: the mark is lit, and goes out if the mode is connected again. -/
theorem tends_startOver (name : String) (hm : m.mode = .normal) :
    Tends m.touches e.lights true (startOver P name m e) := by
  -- Before the lease is asked for anew the mode is connecting, with the mark lit.
  have hanew {e' : Env σ} (h : e.lights.Within m.touches e'.lights) :
      Tends m.touches e.lights true
        (askForLease P name
          { m with address := .unspecified, client := m.client.map Client.forget, status := .connecting }
          (e'.signal .dhcpRecovering true)) := by
    obtain ⟨hwithin, hmark⟩ := tends_askForLease (P := P)
      (m := { m with address := .unspecified, client := m.client.map Client.forget, status := .connecting })
      (e := e'.signal .dhcpRecovering true) name hm nofun
    refine ⟨(h.update (.inr (by rw [hm]; rfl)) true).trans hwithin, hmark.trans ?_⟩
    have hlit : (e'.signal .dhcpRecovering true).lights.lit .dhcpRecovering = e.lights.present := by
      rw [Env.signal, Indicator.lit_update_self, h.present, Bool.and_true]
    rw [hlit]
    cases hp : e.lights.present <;> simp [Indicator.lit, hp]
  unfold startOver
  simp only
  split
  · rename_i kind hk
    have hown : e.lights.Within m.touches (e.lights.update (connectedSignal m.mode kind) false) :=
      (Indicator.Within.refl _).update (.inl (m.minds_connected hk)) false
    exact hanew (hown.update (.inl (m.minds_connecting hk)) true)
  · exact hanew (.refl _)

theorem tends_loseLink (hr : Regained (m, e)) : Tends m.touches e.lights false (loseLink P m e) := by
  have hlost (e' : Env σ) (hl : e'.lights = e.lights) :
      e.lights.Within m.minds (loseLink P { m with client := none } e').2.lights := by
    simp only [loseLink]
    split
    · split
      · rename_i kind hk
        exact ((Indicator.Within.of_eq hl).update (m.minds_connected hk) false).update (m.minds_connecting hk) true
      · exact .of_eq hl
    · exact .of_eq hl
  have hwithin : e.lights.Within m.minds (loseLink P m e).2.lights := by
    cases hc : m.client with
    | none =>
      have hnone : loseLink P m e = loseLink P { m with client := none } e := by simp only [loseLink, hc]
      rw [hnone]
      exact hlost e rfl
    | some c =>
      have hsome : loseLink P m e = loseLink P { m with client := none } (hangUp P c.session e) := by
        simp only [loseLink, hc]
      rw [hsome]
      exact hlost _ rfl
  refine .passing hwithin (fun hc => ?_) (fun hlost => by cases hlost)
  rw [loseLink_fst] at hc
  simp only at hc
  split at hc
  · cases hc
  · exact hr hc

theorem tends_restart {i : Indicator} {lost : Bool} (h : Tends m.touches i lost (m', e)) :
    Tends m.touches i lost (restart P m' e) := by
  have hsame {e' : Env σ} (hl : e'.lights = e.lights) : Tends m.touches i lost (m', e') :=
    ⟨h.within.trans (.of_eq hl), (congrArg (Indicator.lit · _) hl).trans h.mark⟩
  unfold restart
  split
  · exact h
  · split <;> rename_i hx <;> have hl := congrArg (·.2.lights) hx.symm
    · exact hsame hl
    · have hfailed := (hsame hl).failed (x := .errorHardware) rfl
      exact ⟨hfailed.within, hfailed.mark⟩

/-- Only a lease is recovered. -/
theorem leased_of_recover {c : Client} {now retry : Nat} (h : c.due now retry = .recover) :
    c.lease.isSome = true := by
  cases hl : c.lease with
  | none =>
    rw [Client.due_of_no_lease hl] at h
    split at h <;> cases h
  | some _ => rfl

/-- A tick of the clock loses the lease of a connected mode, if at all. -/
theorem tends_tick (retry : Nat) (hm : m.mode = .normal) (hr : Regained (m, e))
    (hc : ∀ c, m.client = some c → c.lease.isSome = true → m.status = .connected) :
    Tends m.touches e.lights (decide (m.status = .connected)) (tick P retry m e) := by
  have hidle : Tends m.touches e.lights (decide (m.status = .connected)) (m, e) :=
    .passing (.refl _) hr of_decide_eq_true
  unfold tick
  split
  · exact hidle
  · split
    · rename_i c name hclient _
      split
      · exact hidle
      · split
        · rename_i hs
          have hconnecting : m.status = .connecting := by simp_all
          rw [hconnecting]
          exact tends_askForLease name hm hr
        · exact hidle
      · split
        · rename_i hs
          exact tends_extendLease name _ hr hs
        · exact hidle
      · rename_i hdue
        rw [decide_eq_true (hc c hclient (leased_of_recover hdue))]
        exact tends_startOver name hm
    · exact hidle

end Link

namespace Dispatch

theorem tends_bothUp (hm : m.mode = .normal) (hr : Regained (m, e)) :
    Tends m.touches e.lights false (bothUp P m e) := by
  unfold bothUp
  split
  · exact Link.tends_gainLink hm hr
  · exact .same (.refl _) hr rfl

theorem tends_ethernet (event : Event) (hm : m.mode = .normal) (hr : Regained (m, e)) :
    Tends m.touches e.lights false (ethernet P event m e) := by
  have hflags (ifUp linkUp : Bool) : Regained ({ m with ifUp, linkUp }, e) := hr
  unfold ethernet
  split
  · exact tends_bothUp (m := { m with ifUp := true }) hm (hflags true m.linkUp)
  · exact tends_bothUp (m := { m with linkUp := true }) hm (hflags m.ifUp true)
  · exact Link.tends_loseLink (m := { m with ifUp := false, linkUp := false }) (hflags false false)
  · exact Link.tends_loseLink (m := { m with linkUp := false }) (hflags m.ifUp false)
  · exact .same (.refl _) hr rfl

theorem tends_station (event : Event) (hm : m.mode = .normal) (hr : Regained (m, e)) :
    Tends m.touches e.lights false (station P event m e) := by
  have hlost (ifUp linkUp : Bool) : Tends m.touches e.lights false (Link.loseLink P { m with ifUp, linkUp } e) :=
    Link.tends_loseLink (m := { m with ifUp, linkUp }) hr
  unfold station
  split
  · simp only
    split
    · exact Link.tends_gainLink (m := { m with ifUp := true, linkUp := true }) hm hr
    · exact .same (.refl _) hr rfl
  · simp only
    split
    · exact Link.tends_restart (hlost m.ifUp false)
    · exact hlost m.ifUp false
  · simp only
    split
    · rename_i hs
      exact .passing (.refl _) nofun nofun
    · exact Link.tends_restart (hlost false false)
  · exact hlost m.ifUp false
  · exact hlost m.ifUp false
  · exact .same (.refl _) hr rfl

/-- The normal mode's answer to an event. -/
theorem tends_answer (retry : Nat) (event : Event) (hm : m.mode = .normal) (hr : Regained (m, e))
    (hc : ∀ c, m.client = some c → c.lease.isSome = true → m.status = .connected) :
    Tends m.touches e.lights (event = .tick && m.status = .connected) (answer P retry event m e) := by
  have hkind (event : Event) : Tends m.touches e.lights false (byKind P event m e) := by
    unfold byKind
    rw [hm]
    cases m.carrierKind? with
    | none => exact .same (.refl _) hr rfl
    | some kind =>
      cases kind with
      | ethernet => exact tends_ethernet event hm hr
      | wifi => exact tends_station event hm hr
  unfold answer
  split
  · exact Link.tends_tick retry hm hr hc
  · split
    · exact .passing (.refl _) nofun nofun
    · exact hkind _
  · rename_i hn _
    rw [decide_eq_false hn, Bool.false_and]
    exact hkind _

end Dispatch

/-! ## The access point -/

/-- What the access point does to the lights `i`: its mark is lit once it is up. -/
structure Rises (own : Signal → Prop) (i : Indicator) (y : ModeState × Env σ) : Prop where
  within : i.Within own y.2.lights
  mark : y.2.lights.lit .apStarted = (i.lit .apStarted || i.present && y.1.apStarted)

/-- An access point that is up has its mark lit. -/
def Marked (x : ModeState × Env σ) : Prop :=
  x.1.apStarted = true → x.2.lights.lit .apStarted = x.2.lights.present

/-- An access point that does not come up. -/
theorem Rises.passing {y : ModeState × Env σ} (h : e.lights.Within m.minds y.2.lights) (hx : Marked (m, e))
    (hs : y.1.apStarted = m.apStarted) : Rises m.touches e.lights y := by
  refine ⟨h.mono fun _ => .inl, ?_⟩
  rw [h.same .apStarted (m.not_minds_mark .accessPoint), hs]
  cases hup : m.apStarted with
  | false => simp
  | true =>
    have hlit : e.lights.lit .apStarted = e.lights.present := hx hup
    simp [hlit]

/-- An error is shown. -/
theorem Rises.failed {i : Indicator} (h : Rises m.touches i (m', e')) {x : Signal} (hx : x.light = .error) :
    Rises m.touches i (m', e'.signal x true) := by
  refine ⟨h.within.update (.inl (.inl hx)) true, ?_⟩
  have hne : x ≠ .apStarted := by
    rintro rfl
    cases hx
  exact (Indicator.lit_update_of_ne _ hne true).trans h.mark

theorem Rises.refresh {i : Indicator} {y : ModeState × Env σ} (h : Rises m.touches i y) :
    Rises m.touches i (y.1.refresh.2, y.2) := by
  rw [ModeState.refresh_snd]
  exact ⟨h.within, h.mark⟩

theorem Rises.marked {i : Indicator} {y : ModeState × Env σ} (h : Rises m.touches i y) : Marked y := by
  intro hs
  rw [h.mark, hs, h.within.present]
  cases hp : i.present <;> simp [Indicator.lit, hp]

namespace Link

theorem rises_apReady (hm : m.mode = .accessPoint) (hx : Marked (m, e)) :
    Rises m.touches e.lights (apReady P m e) := by
  have hup {m' : ModeState} {e' : Env σ} (hs : m'.apStarted = true)
      (hl : e'.lights = (e.signal .apStarted true).lights) : Rises m.touches e.lights (m', e') := by
    have hmarked : e.lights.Within m.touches (e.signal .apStarted true).lights :=
      (Indicator.Within.refl _).update (.inr (by rw [hm]; rfl)) true
    refine ⟨hmarked.trans (.of_eq hl), ?_⟩
    show e'.lights.lit .apStarted = (_ || _ && m'.apStarted)
    rw [hl, Env.signal, Indicator.lit_update_self, hs]
    cases hp : e.lights.present <;> simp [Indicator.lit, hp]
  unfold apReady
  split
  · exact .passing (.refl _) hx rfl
  · cases m.carrierName? with
    | none => exact .passing (.refl _) hx rfl
    | some name =>
      simp only
      have hl := lights_setStatic (P := P) name m.parameters.accessPoint.ip (e.signal .apStarted true)
      have hip : { m with ifUp := true, apStarted := true }.parameters = m.parameters := rfl
      rw [hip]
      split <;> rename_i hx <;> rw [hx] at hl
      · exact (hup rfl hl).failed rfl
      · rename_i address e₁
        simp only [startServer]
        have hserver : (e₁.perform (P.startServer name ⟨address.address, address.netmask⟩)).2.lights = _ := hl
        split <;> rename_i hy <;> split at hy <;> rename_i hz <;> cases hy <;> rw [hz] at hserver
        · exact hup rfl hserver
        · exact (hup rfl hserver).failed rfl

theorem rises_clientJoined (hc : m.minds .connectedWifi) (hx : Marked (m, e)) :
    Rises m.touches e.lights (clientJoined m e) := by
  simp only [clientJoined]
  split
  · exact .passing ((Indicator.Within.refl _).update hc true) hx rfl
  · exact .passing (.refl _) hx rfl

theorem rises_clientLeft (hc : m.minds .connectedWifi) (hx : Marked (m, e)) :
    Rises m.touches e.lights (clientLeft m e) := by
  simp only [clientLeft]
  split
  · exact .passing (.refl _) hx rfl
  · split
    · exact .passing ((Indicator.Within.refl _).update hc false) hx rfl
    · exact .passing (.refl _) hx rfl

end Link

namespace Dispatch

/-- The access point's answer to an event. -/
theorem rises_answer (retry : Nat) (event : Event) (hm : m.mode = .accessPoint) (hc : m.client = none)
    (hk : m.carrier.isSome = true) (hx : Marked (m, e)) :
    Rises m.touches e.lights (answer P retry event m e) := by
  have hwifi : m.minds .connectedWifi := by
    obtain ⟨carrier, hcarrier⟩ := Option.isSome_iff_exists.mp hk
    have hkind : m.carrierKind? = some carrier.kind := congrArg (·.map (·.kind)) hcarrier
    have hown := m.minds_connected hkind
    rw [hm] at hown
    exact hown
  have hkind (event : Event) : Rises m.touches e.lights (byKind P event m e) := by
    unfold byKind
    rw [hm]
    simp only
    unfold accessPoint
    split
    · split
      · exact Link.rises_apReady hm hx
      · exact .passing (.refl _) hx rfl
    · exact Link.rises_clientJoined hwifi hx
    · exact Link.rises_clientLeft hwifi hx
    · exact .passing (.refl _) hx rfl
  unfold answer
  split
  · have hidle : Link.tick P retry m e = (m, e) := by
      unfold Link.tick
      rw [hc]
      split <;> rfl
    rw [hidle]
    exact .passing (.refl _) hx rfl
  · split
    · exact .passing (.refl _) hx rfl
    · exact hkind _
  · exact hkind _

end Dispatch

/-! ## Events -/

namespace ControlPlane

variable {M : ControlPlane σ τ}

theorem tends_reaction (hm : m.mode = .normal) (hc : m.Consistent none) (hr : Regained (m, e)) (name : String)
    (event : Event) :
    Tends m.touches e.lights (event = .tick && m.status = .connected) (M.reaction name event m e) := by
  have hsame {m' : ModeState} {e' : Env σ} (hs : m'.status = m.status) (hl : e'.lights = e.lights) :
      Tends m.touches e.lights (event = .tick && m.status = .connected) (m', e') := by
    refine .passing (.of_eq hl) (fun hc => hr (hs ▸ hc)) fun hlost => ?_
    simp only [Bool.and_eq_true, decide_eq_true_eq] at hlost
    exact hs.trans hlost.2
  unfold reaction
  split
  · split
    · cases m.client with
      | none => exact hsame rfl rfl
      | some c => exact hsame rfl rfl
    · have hleased (c : Client) (hclient : m.client = some c) := (hc.session c hclient).leased
      exact (Dispatch.tends_answer M.policy.retryNanos event hm hr hleased).refresh
  · exact hsame rfl rfl

theorem rises_reaction (hm : m.mode = .accessPoint) (hc : m.client = none) (hx : Marked (m, e)) (name : String)
    (event : Event) : Rises m.touches e.lights (M.reaction name event m e) := by
  unfold reaction
  split
  · rename_i ha
    split
    · rw [hc]
      exact .passing (.refl _) hx rfl
    · have hk : m.carrier.isSome = true := by
        obtain ⟨carrier, hcarrier, -⟩ := Option.map_eq_some_iff.mp (ModeState.accepts_iff.mp ha).2
        rw [hcarrier]
        rfl
      exact (Dispatch.rises_answer M.policy.retryNanos event hm hc hk hx).refresh
  · exact .passing (.refl _) hx rfl

end ControlPlane

end Connectivity
