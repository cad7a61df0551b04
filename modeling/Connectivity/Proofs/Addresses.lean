/-
  Connectivity.Proofs.Addresses — the address that a mode reports is the one its interface has.
  - `Platform.Addresses`: on a platform two operations change what address an interface has, `setAddress`
    and `stop`. `Board.addresses`: the simulated one is such a platform.
  - `Heeds`: what a mode does on its interface, as far as addresses go. It touches no other interface, and
    reports an address only once the interface has it. `heeds_answer`: a running mode answers so.
  - `Minds`: the same for a mode that may not be running. `Minds.addressed`: while the modes run on
    different interfaces, what one of them does leaves the other's address true.
  - `addressed_step`: so does every move, and so every run (`reach_addressed`).
-/

import Connectivity.Proofs.Remains

namespace Connectivity

open Simulation

/-! ## Addresses of interfaces -/

/-- A platform whose interfaces keep their addresses. -/
def Platform.still {σ : Type} (P : Platform σ) : Platform σ :=
  { P with stop := fun _ s => (.ok (), s), setAddress := fun _ _ s => (.ok (), s) }

/-- In this view an interface has the address that it was given last, and none once it was stopped. -/
structure Platform.Addresses {σ : Type} (P : Platform σ) (view : σ → String → Option Addressing) : Prop where
  stop : ∀ name, Does view (P.stop name) (fun _ held => Function.update held name (some .unspecified))
  setAddress : ∀ name a, Does view (P.setAddress name a) (fun _ held => Function.update held name (some a))
  rest : P.still.Leaves view

namespace Simulation

namespace Network

/-- What is seen of each interface. -/
def seen {β : Type} (view : Device → β) (n : Network) (name : String) : Option β := (n.devices.find? name).map view

theorem seen_setDevice {β : Type} (view : Device → β) (name : String) (d : Device) (n : Network) :
    (n.setDevice name d).seen view = Function.update (n.seen view) name (some (view d)) := by
  funext name'
  simp only [seen, setDevice, Table.find?_insert, Function.update_apply, eq_comm (a := name')]
  split <;> rfl

/-- An interface that looks as before. -/
theorem seen_setDevice_of_eq {β : Type} {view : Device → β} {name : String} {d d' : Device} {n : Network}
    (hd : n.devices.find? name = some d) (hsame : view d' = view d) :
    (n.setDevice name d').seen view = n.seen view := by
  have hsome : n.seen view name = some (view d) := by rw [seen, hd, Option.map_some]
  rw [seen_setDevice, hsame, ← hsome, Function.update_eq_self]

theorem unscripted_seen {β : Type} (view : Device → β) : Unscripted (seen view) := fun _ _ _ _ _ => rfl

/-- An event changes what is seen of its own interface, as it changes the interface. -/
theorem seen_occur {β : Type} (view : Device → β) (name : String) (event : Event) (n : Network) (name' : String) :
    (n.occur name event).2.seen view name' =
      if name = name' then (n.devices.find? name).map (fun d => view (Device.after d event))
      else n.seen view name' := by
  unfold occur
  rw [(unscripted_seen view).deliver]
  simp only [seen, Table.find?_alter]
  split
  · rename_i heq
    rw [Option.map_map]
    rfl
  · rfl

/-- What is neither said by a setup or a method nor by whether an interface runs, only `stop` and `setAddress`
    change. -/
theorem leaves_seen {β : Type} {view : Device → β}
    (hview : ∀ d setup running method, view { d with setup, running, method } = view d) :
    platform.still.Leaves (seen view) where
  interfaces := quiet_of_eq fun _ => rfl
  configure _ _ := does_begun (unscripted_seen view) (does_onDevice fun d _ hd =>
    seen_setDevice_of_eq hd (hview d _ d.running d.method))
  start _ := does_begun (unscripted_seen view) (does_onDevice fun d n hd => by
    split
    · rfl
    · exact seen_setDevice_of_eq hd (hview d d.setup _ d.method))
  announceStop name := does_begun (unscripted_seen view) (does_onDevice fun d n _ => by
    split
    · exact (unscripted_seen view).deliver name .ifDownPre n
    · rfl)
  stop _ := quiet_of_eq fun _ => rfl
  subscribe _ := does_onDevice fun d n _ => by split <;> rfl
  unsubscribe name := quiet_of_eq fun n => by
    simp only [platform, Platform.still, unregister]
    split <;> rfl
  status _ := does_onDevice fun _ _ _ => rfl
  netstat _ := does_onDevice fun _ _ _ => rfl
  mac _ := does_onDevice fun _ _ _ => rfl
  address _ := does_onDevice fun _ _ _ => rfl
  setAddress _ _ := quiet_of_eq fun _ => rfl
  setMethod name method n := by
    have h : Quiet (seen view)
        (onDevice name fun d n => (.ok (), n.setDevice name { d with method := some method })) :=
      does_onDevice fun d _ hd => seen_setDevice_of_eq hd (hview d d.setup d.running _)
    exact h (n.note (.setMethod name method))
  openSession _ _ := does_begun (unscripted_seen view) (does_onDevice fun _ _ _ => rfl)
  request _ := does_inSession fun name n => (unscripted_seen view).answer (n.note (.request name))
  renew _ mode := does_inSession fun name n => (unscripted_seen view).answer (n.note (.renew name mode))
  release _ := does_inSession fun name => quiet_of_eq ((unscripted_seen view).begin _ _)
  close _ := does_inSession fun _ _ => rfl
  startServer _ _ := does_begun (unscripted_seen view) fun _ => rfl
  stopServer name := quiet_of_eq fun n => by
    simp only [platform, Platform.still, stopServer]
    split <;> rfl

/-- The address that an interface has. -/
def addressOf (n : Network) (name : String) : Option Addressing := (n.devices.find? name).map (·.address)

theorem addressOf_setDevice (name : String) (d : Device) (n : Network) :
    (n.setDevice name d).addressOf = Function.update n.addressOf name (some d.address) :=
  seen_setDevice (·.address) name d n

theorem unscripted_addressOf : Unscripted addressOf := unscripted_seen (·.address)

/-- An event from outside gives no interface another address. -/
theorem addressOf_occur (name : String) (event : Event) (n : Network) :
    (n.occur name event).2.addressOf = n.addressOf := by
  have hafter (d : Device) : (Device.after d event).address = d.address := by
    cases event <;> rfl
  funext name'
  have hseen := seen_occur (·.address) name event n name'
  simp only [hafter] at hseen
  refine hseen.trans ?_
  split
  · rename_i heq
    rw [← heq]
    rfl
  · rfl

theorem does_setAddress (name : String) (a : Addressing) :
    Does addressOf (setAddress name a) (fun _ held => Function.update held name (some a)) :=
  does_begun unscripted_addressOf (does_onDevice fun _ _ _ => addressOf_setDevice name _ _)

theorem does_stop_address (name : String) :
    Does addressOf (stop name) (fun _ held => Function.update held name (some .unspecified)) := by
  refine does_begun unscripted_addressOf (does_onDevice fun d n _ => ?_)
  split
  · exact addressOf_setDevice name _ n
  · rfl

theorem leaves_addressOf : platform.still.Leaves addressOf := leaves_seen fun _ _ _ _ => rfl

end Network

/-- The address that an interface of a board has. -/
def Board.addressOf (b : Board) (name : String) : Option Addressing := b.inner.addressOf name

/-- A call that is made to fail gives no interface another address. -/
theorem Board.addresses : Board.platform.Addresses Board.addressOf where
  stop name := (Network.does_stop_address name).behind Method.stop
  setAddress name a := (Network.does_setAddress name a).behind Method.setAddress
  rest :=
    { leaves_faultyPlatform Network.leaves_addressOf with
      stop := fun _ => quiet_of_eq fun _ => rfl
      setAddress := fun _ _ => quiet_of_eq fun _ => rfl }

end Simulation

/-! ## What a mode does on its interface -/

section
variable {σ α β : Type} {P : Platform σ} {view : σ → String → Option Addressing} {name : String}

theorem effect_perform {view : σ → β} {a : Action σ α} {f : α → β → β} (ha : Does view a f) {e e' : Env σ}
    {answer : Except PlatformError α} (h : e.perform a = (answer, e')) :
    Effect f (view e.platform) answer (view e'.platform) := by
  cases h
  exact ha e.platform

/-- An operation that gives an interface an address, or takes it away, leaves the others theirs. -/
theorem view_elsewhere {a : Action σ α} {a? : Option Addressing}
    (ha : Does view a (fun _ held => Function.update held name a?)) {e e' : Env σ} {answer : Except PlatformError α}
    (h : e.perform a = (answer, e')) {name' : String} (hn : name' ≠ name) :
    view e'.platform name' = view e.platform name' := by
  have heffect := effect_perform ha h
  cases answer with
  | error err => exact congrFun heffect name'
  | ok x => exact (congrFun heffect name').trans (Function.update_of_ne hn ..)

/-- An interface has the address that its mode reports, if it reports one. -/
def InUse (view : σ → String → Option Addressing) (name : String) (x : ModeState × Env σ) : Prop :=
  x.1.address ≠ .unspecified → view x.2.platform name = some x.1.address

/-- A mode goes on reporting what is true of its interface, and leaves the addresses of the others. -/
structure Heeds (view : σ → String → Option Addressing) (name : String) (x y : ModeState × Env σ) : Prop where
  inUse : InUse view name x → InUse view name y
  others : ∀ name', name' ≠ name → view y.2.platform name' = view x.2.platform name'

namespace Heeds

variable {x y z : ModeState × Env σ}

theorem trans (h : Heeds view name x y) (h' : Heeds view name y z) : Heeds view name x z where
  inUse hx := h'.inUse (h.inUse hx)
  others name' hn := (h'.others name' hn).trans (h.others name' hn)

/-- Nothing becomes of any address. -/
theorem same (ha : y.1.address = x.1.address) (hv : view y.2.platform = view x.2.platform) : Heeds view name x y where
  inUse hx hy := by
    rw [hv, ha]
    exact hx (ha ▸ hy)
  others name' _ := congrFun hv name'

theorem refl (x : ModeState × Env σ) : Heeds view name x x := same rfl rfl

/-- No address is reported any more. -/
theorem dropped (ha : y.1.address = .unspecified)
    (hv : ∀ name', name' ≠ name → view y.2.platform name' = view x.2.platform name') : Heeds view name x y where
  inUse _ hy := absurd ha hy
  others := hv

/-- The interface is given the address that is reported. -/
theorem given (hv : view y.2.platform = Function.update (view x.2.platform) name (some y.1.address)) :
    Heeds view name x y where
  inUse _ _ := by rw [hv, Function.update_self]
  others name' hn := by rw [hv, Function.update_of_ne hn]

end Heeds

namespace Link

variable {m : ModeState} {e : Env σ}

@[simp] theorem becomeConnected_address (m : ModeState) (e : Env σ) :
    (becomeConnected m e).1.address = m.address := rfl

@[simp] theorem becomeConnected_platform (m : ModeState) (e : Env σ) :
    (becomeConnected m e).2.platform = e.platform := by
  unfold becomeConnected
  split <;> rfl

/-- What becomes of the addresses as an interface gets one, or gets none. -/
def gives (name : String) (a? : Option Addressing) (held : String → Option Addressing) : String → Option Addressing :=
  match a? with
  | some a => Function.update held name (some a)
  | none => held

/-- The address of the lease that an attempt got. -/
def Attempt.addressing? : Attempt → Option Addressing
  | .leased g _ => some g.addressing
  | .failed _ => none

theorem view_setStatic (hP : P.Addresses view) (name : String) (texts : AddressTexts) (e : Env σ) :
    view (setStatic P name texts e).2.platform = gives name (setStatic P name texts e).1 (view e.platform) := by
  unfold setStatic
  split
  · rfl
  · split <;> rename_i hx <;> have h1 := leaves_perform (hP.rest.setMethod name .static) hx
    · exact h1
    · split <;> rename_i hy <;> have h2 := effect_perform (hP.setAddress name _) hy <;> rw [h1] at h2 <;> exact h2

/-- A lease that is not to be had, or too short, gives the interface no address. -/
theorem view_attempt (hP : P.Addresses view) (name : String) {ask : Action σ Grant} (hask : Quiet view ask)
    (e : Env σ) :
    view (attempt P name ask e).2.platform = gives name (attempt P name ask e).1.addressing? (view e.platform) := by
  unfold attempt
  split <;> rename_i hx <;> have h1 := leaves_perform hask hx
  · exact h1
  · split
    · exact h1
    · split <;> rename_i hy <;> have h2 := effect_perform (hP.setAddress name _) hy <;> rw [h1] at h2 <;> exact h2

theorem heeds_assignStatic (hP : P.Addresses view) : Heeds view name (m, e) (assignStatic P name m e) := by
  have h1 := view_setStatic hP name m.parameters.normal.ip e
  unfold assignStatic
  split <;> rename_i hx <;> rw [hx] at h1
  · refine .given ?_
    rw [becomeConnected_platform, becomeConnected_address]
    exact h1
  · exact .same rfl h1

theorem heeds_askForLease (hP : P.Addresses view) : Heeds view name (m, e) (askForLease P name m e) := by
  unfold askForLease
  split
  · exact .refl _
  · rename_i c _
    have hask : Quiet view (P.request c.session) := hP.rest.request c.session
    have h1 := view_attempt hP name hask e
    split <;> rename_i hx <;> rw [hx] at h1
    · refine .given ?_
      rw [becomeConnected_platform, becomeConnected_address]
      exact h1
    · exact .same rfl h1

/-- A lease that is not renewed keeps its address. -/
theorem heeds_extendLease (hP : P.Addresses view) (mode : Renewal) :
    Heeds view name (m, e) (extendLease P name mode m e) := by
  unfold extendLease
  split
  · exact .refl _
  · rename_i c _
    have hask : Quiet view (P.renew c.session mode) := hP.rest.renew c.session mode
    have h1 := view_attempt hP name hask e
    split <;> rename_i hx <;> rw [hx] at h1
    · exact .given h1
    · exact .same rfl h1

theorem view_openSession (hP : P.Addresses view) (e : Env σ) :
    view (openSession P name e).2.platform = view e.platform := by
  unfold openSession
  split <;> rename_i hx <;> have h1 : _ = view e.platform := leaves_perform (hP.rest.mac name) hx
  · exact h1
  · exact ((hP.rest.openSession name _).eq _).trans h1

theorem heeds_assignLease (hP : P.Addresses view) : Heeds view name (m, e) (assignLease P name m e) := by
  unfold assignLease
  split
  · split <;> rename_i hx <;> have h1 := leaves_perform (hP.rest.setMethod name .dhcp) hx
    · refine .same rfl ?_
      rw [becomeConnected_platform]
      exact h1
    · exact .same rfl h1
  · split
    · exact heeds_askForLease hP
    · have h1 : view (openSession P name e).2.platform = view e.platform := view_openSession hP e
      split <;> rename_i hx <;> rw [hx] at h1
      · exact .same rfl h1
      · rename_i id e'
        have hopened : Heeds view name (m, e) ({ m with client := some { session := id } }, e') := .same rfl h1
        exact hopened.trans (heeds_askForLease hP)

/-- The old address is not reported any more, also where the interface keeps it. -/
theorem heeds_startOver (hP : P.Addresses view) : Heeds view name (m, e) (startOver P name m e) := by
  have hdropped {m' : ModeState} (ha : m'.address = .unspecified) {e' : Env σ}
      (he : e'.platform = (e.perform (P.setAddress name .unspecified)).2.platform) :
      Heeds view name (m, e) (m', e') := by
    refine .dropped ha fun name' hn => ?_
    have hothers : _ = view e.platform name' := view_elsewhere (hP.setAddress name .unspecified) rfl hn
    exact (congrArg (view · name') he).trans hothers
  unfold startOver
  refine (hdropped ?_ ?_).trans (heeds_askForLease hP)
  · rfl
  · simp only
    split <;> rfl

theorem heeds_gainLink (hP : P.Addresses view) (hn : m.carrierName? = some name) :
    Heeds view name (m, e) (gainLink P m e) := by
  unfold gainLink
  rw [hn]
  simp only
  split
  · exact heeds_assignStatic hP
  · exact heeds_assignLease hP

theorem view_loseLink (hP : P.Addresses view) (m : ModeState) (e : Env σ) :
    view (loseLink P m e).2.platform = view e.platform := by
  cases hc : m.client with
  | none =>
    simp only [loseLink, hc]
    (repeat' split) <;> rfl
  | some c =>
    have hclosed : view (hangUp P c.session e).platform = view e.platform := (hP.rest.close c.session).eq _
    simp only [loseLink, hc]
    (repeat' split) <;> exact hclosed

theorem heeds_loseLink (hP : P.Addresses view) {m' : ModeState} : Heeds view name (m, e) (loseLink P m' e) := by
  refine .dropped ?_ fun name' _ => congrFun (view_loseLink hP m' e) name'
  rw [loseLink_fst]

/-- An interface that is restarted has no address to lose. -/
theorem heeds_restart (hP : P.Addresses view) (hn : m.carrierName? = some name) (ha : m.address = .unspecified) :
    Heeds view name (m, e) (restart P m e) := by
  unfold restart
  rw [hn]
  simp only
  split <;> rename_i hx <;> have h1 := leaves_perform (hP.rest.start name) hx
  · exact .same rfl h1
  · rename_i e'
    exact .dropped ha fun name' hn => (view_elsewhere (hP.stop name) rfl hn).trans (congrFun h1 name')

theorem heeds_tick (hP : P.Addresses view) (hn : m.carrierName? = some name) (retry : Nat) :
    Heeds view name (m, e) (tick P retry m e) := by
  unfold tick
  rw [hn]
  split
  · exact .refl _
  · split
    · rename_i hname
      cases hname
      split
      · exact .refl _
      · split
        · exact heeds_askForLease hP
        · exact .refl _
      · split
        · exact heeds_extendLease hP _
        · exact .refl _
      · exact heeds_startOver hP
    · exact .refl _

theorem heeds_apReady (hP : P.Addresses view) (hn : m.carrierName? = some name) :
    Heeds view name (m, e) (apReady P m e) := by
  unfold apReady
  rw [hn]
  split
  · exact .refl _
  · simp only
    have h1 := view_setStatic hP name { m with ifUp := true, apStarted := true }.parameters.accessPoint.ip
      (e.signal .apStarted true)
    split <;> rename_i hx <;> rw [hx] at h1
    · exact .same rfl h1
    · rename_i address e'
      have hgiven : Heeds view name (m, e) ({ m with ifUp := true, apStarted := true, address }, e') := .given h1
      refine hgiven.trans ?_
      simp only [startServer]
      cases hy : e'.perform (P.startServer name ⟨address.address, address.netmask⟩) with
      | mk answer e'' =>
        have h2 : view e''.platform = view e'.platform := leaves_perform (hP.rest.startServer name _) hy
        cases answer <;> exact .same rfl h2

theorem heeds_clientJoined : Heeds view name (m, e) (clientJoined m e) := by
  simp only [clientJoined]
  split <;> exact .same rfl rfl

theorem heeds_clientLeft : Heeds view name (m, e) (clientLeft m e) := by
  simp only [clientLeft]
  split
  · exact .refl _
  · split <;> exact .same rfl rfl

end Link

namespace Dispatch

variable {m : ModeState} {e : Env σ}

theorem heeds_bothUp (hP : P.Addresses view) (hn : m.carrierName? = some name) :
    Heeds view name (m, e) (bothUp P m e) := by
  unfold bothUp
  split
  · exact Link.heeds_gainLink hP hn
  · exact .refl _

theorem heeds_ethernet (hP : P.Addresses view) (hn : m.carrierName? = some name) (event : Event) :
    Heeds view name (m, e) (ethernet P event m e) := by
  have hready (ifUp linkUp : Bool) : Heeds view name (m, e) (bothUp P { m with ifUp, linkUp } e) := by
    have hflags : Heeds view name (m, e) ({ m with ifUp, linkUp }, e) := .same rfl rfl
    exact hflags.trans (heeds_bothUp hP hn)
  unfold ethernet
  split
  · exact hready true m.linkUp
  · exact hready m.ifUp true
  · exact Link.heeds_loseLink hP
  · exact Link.heeds_loseLink hP
  · exact .refl _

theorem heeds_station (hP : P.Addresses view) (hn : m.carrierName? = some name) (event : Event) :
    Heeds view name (m, e) (station P event m e) := by
  have hflags (ifUp linkUp : Bool) : Heeds view name (m, e) ({ m with ifUp, linkUp }, e) := .same rfl rfl
  -- The address is gone before the interface is restarted.
  have hagain (m' : ModeState) (hn' : m'.carrierName? = some name) :
      Heeds view name (m, e) (Link.restart P (Link.loseLink P m' e).1 (Link.loseLink P m' e).2) := by
    have hlost : Heeds view name (m, e) (Link.loseLink P m' e) := Link.heeds_loseLink hP
    have hname := (ModeState.carrierName?_of_fixed (Link.fixed_loseLink P m' e)).trans hn'
    have haddress : (Link.loseLink P m' e).1.address = .unspecified := by rw [Link.loseLink_fst]
    generalize Link.loseLink P m' e = x at hlost hname haddress ⊢
    exact hlost.trans (Link.heeds_restart hP hname haddress)
  unfold station
  split
  · simp only
    split
    · exact (hflags true true).trans (Link.heeds_gainLink hP hn)
    · exact hflags true true
  · simp only
    split
    · exact hagain { m with linkUp := false } hn
    · exact Link.heeds_loseLink hP
  · simp only
    split
    · exact .same rfl rfl
    · exact hagain { m with ifUp := false, linkUp := false } hn
  · exact Link.heeds_loseLink hP
  · exact Link.heeds_loseLink hP
  · exact .refl _

theorem heeds_accessPoint (hP : P.Addresses view) (hn : m.carrierName? = some name) (event : Event) :
    Heeds view name (m, e) (accessPoint P event m e) := by
  unfold accessPoint
  split
  · split
    · exact Link.heeds_apReady hP hn
    · exact .refl _
  · exact Link.heeds_clientJoined
  · exact Link.heeds_clientLeft
  · exact .refl _

/-- A mode's answer to any event of its interface. -/
theorem heeds_answer (hP : P.Addresses view) (hn : m.carrierName? = some name) (retry : Nat) (event : Event) :
    Heeds view name (m, e) (answer P retry event m e) := by
  have hkind (event : Event) : Heeds view name (m, e) (byKind P event m e) := by
    unfold byKind
    split
    · exact heeds_accessPoint hP hn event
    · exact heeds_ethernet hP hn event
    · exact heeds_station hP hn event
    · exact .refl _
  unfold answer
  split
  · exact Link.heeds_tick hP hn retry
  · split
    · exact .same rfl rfl
    · exact hkind _
  · exact hkind _

end Dispatch

/-! ## Modes that may not be running -/

/-- The interface that a mode runs on. -/
def ModeState.runsOn? (m : ModeState) : Option String := if m.status.isRunning then m.carrierName? else none

/-- A mode that reports an address runs on an interface that has it. -/
def ModeState.Addressed (m : ModeState) (held : String → Option Addressing) : Prop :=
  m.address ≠ .unspecified → ∃ name, m.runsOn? = some name ∧ held name = some m.address

theorem ModeState.runsOn?_of_isRunning {m : ModeState} (hr : m.status.isRunning = true) :
    m.runsOn? = m.carrierName? := by
  rw [runsOn?, if_pos hr]

theorem ModeState.runsOn?_of_not {m : ModeState} (hr : m.status.isRunning = false) : m.runsOn? = none := by
  rw [runsOn?, hr]
  rfl

/-- A mode that does not run reports no address. -/
theorem ModeState.Addressed.of_not {m : ModeState} {held : String → Option Addressing} (h : m.Addressed held)
    (hr : m.status.isRunning = false) : m.address = .unspecified := by
  by_contra ha
  obtain ⟨name, hname, -⟩ := h ha
  rw [runsOn?_of_not hr] at hname
  cases hname

theorem ModeState.addressed_of_eq {m : ModeState} (ha : m.address = .unspecified) (held : String → Option Addressing) :
    m.Addressed held :=
  fun hn => absurd ha hn

/-- The modes run on different interfaces. -/
def Modes.Apart (r : Modes) : Prop := ∀ name ∈ r.normal.runsOn?, name ∉ r.accessPoint.runsOn?

instance decidableApart (r : Modes) : Decidable r.Apart :=
  inferInstanceAs (Decidable (∀ name ∈ r.normal.runsOn?, name ∉ r.accessPoint.runsOn?))

/-- What a mode does keeps its own report true, and touches no interface but the one it runs on, if it runs
    on one. It takes no new interface. -/
structure Minds (view : σ → String → Option Addressing) (x y : ModeState × Env σ) : Prop where
  addressed : x.1.Addressed (view x.2.platform) → y.1.Addressed (view y.2.platform)
  others : ∀ name, x.1.runsOn? ≠ some name → view y.2.platform name = view x.2.platform name
  stays : ∀ name, y.1.runsOn? = some name → x.1.runsOn? = some name

namespace Minds

variable {x y : ModeState × Env σ}

/-- A mode that changes in nothing that counts, while no interface gets another address. -/
theorem same (ha : y.1.address = x.1.address) (hn : y.1.runsOn? = x.1.runsOn?)
    (hv : view y.2.platform = view x.2.platform) : Minds view x y where
  addressed hx := by
    unfold ModeState.Addressed at hx ⊢
    rwa [ha, hn, hv]
  others name _ := congrFun hv name
  stays _ h := hn ▸ h

theorem refl (x : ModeState × Env σ) : Minds view x x := same rfl rfl rfl

/-- A mode that goes on running on its interface. -/
theorem of_heeds (h : Heeds view name x y) (hx : x.1.runsOn? = some name) (hy : y.1.runsOn? = some name) :
    Minds view x y where
  addressed ha hn := by
    refine ⟨name, hy, h.inUse (fun hn' => ?_) hn⟩
    obtain ⟨name', hname', hheld⟩ := ha hn'
    rw [hx] at hname'
    cases hname'
    exact hheld
  others name' hn := h.others name' fun heq => hn (heq ▸ hx)
  stays name' hn := by
    rw [hy] at hn
    rw [hx, hn]

/-- A mode that is taken down. -/
theorem ended (ha : y.1.address = .unspecified) (hy : y.1.runsOn? = none)
    (hv : ∀ name, x.1.runsOn? ≠ some name → view y.2.platform name = view x.2.platform name) : Minds view x y where
  addressed _ := ModeState.addressed_of_eq ha _
  others := hv
  stays name hn := by
    rw [hy] at hn
    cases hn

/-- What becomes of a mode's word to its callback is no matter. -/
theorem refresh (h : Minds view x y) : Minds view x (y.1.refresh.2, y.2) := by
  rw [ModeState.refresh_snd]
  exact ⟨h.addressed, h.others, h.stays⟩

end Minds

/-- Both modes report what is true of their interfaces. -/
def Modes.Addressed (r : Modes) (held : String → Option Addressing) : Prop := ∀ mode, (r.get mode).Addressed held

/-- While the modes run on different interfaces, what one does leaves the report of the other true. -/
theorem Minds.modes {r : Modes} {mode : Mode} {e : Env σ} {y : ModeState × Env σ}
    (h : Minds view (r.get mode, e) y) (ha : r.Apart) (hr : r.Addressed (view e.platform)) :
    (r.set mode y.1).Apart ∧ (r.set mode y.1).Addressed (view y.2.platform) := by
  have hother (other : ModeState) (hother : other.Addressed (view e.platform))
      (hne : ∀ name, other.runsOn? = some name → (r.get mode).runsOn? ≠ some name) :
      other.Addressed (view y.2.platform) := by
    intro hn
    obtain ⟨name, hname, hheld⟩ := hother hn
    exact ⟨name, hname, (h.others name (hne name hname)).trans hheld⟩
  cases mode with
  | normal =>
    refine ⟨fun name hn => ha name (h.stays name hn), fun mode' => ?_⟩
    cases mode' with
    | normal => exact h.addressed (hr .normal)
    | accessPoint => exact hother r.accessPoint (hr .accessPoint) fun name hname hn => ha name hn hname
  | accessPoint =>
    refine ⟨fun name hn hn' => ha name hn (h.stays name hn'), fun mode' => ?_⟩
    cases mode' with
    | normal => exact hother r.normal (hr .normal) fun name hname hn => ha name hname hn
    | accessPoint => exact h.addressed (hr .accessPoint)

/-! ## Events and stops -/

theorem Link.minds_stop (hP : P.Addresses view) {m : ModeState} {e : Env σ} (hr : m.status.isRunning = true) :
    Minds view (m, e) (Link.stop P m e).2 := by
  have htear (c : Carrier) (hc : m.carrier = some c) (e' : Env σ)
      (he : ∀ name, name ≠ c.name → view e'.platform name = view e.platform name) :
      Minds view (m, e) (Link.tearDown P c m e') := by
    obtain ⟨down, htorn⟩ := Link.tearDown_fst P c m e'
    have hview : view (Link.tearDown P c m e').2.platform = view e'.platform := hP.rest.within.tearDown c m e'
    refine .ended (by rw [htorn]) (ModeState.runsOn?_of_not ?_) fun name hn => ?_
    · rw [htorn]
      cases down <;> rfl
    · rw [hview]
      refine he name fun heq => hn ?_
      rw [ModeState.runsOn?_of_isRunning hr, ModeState.carrierName?_of_carrier hc, heq]
  unfold Link.stop
  split
  · rename_i hc
    have hnone : m.runsOn? = none := by
      rw [ModeState.runsOn?_of_isRunning hr, ModeState.carrierName?, hc, Option.map_none]
    refine ⟨fun ha hn => ?_, fun _ _ => rfl, fun name hn => ?_⟩
    · obtain ⟨name, hname, -⟩ := ha hn
      rw [hnone] at hname
      cases hname
    · cases hn
  · rename_i c hc
    split <;> rename_i hx
    · exact htear c hc _ fun _ hn => view_elsewhere (hP.stop c.name) hx hn
    · split
      · exact htear c hc _ fun _ hn => view_elsewhere (hP.stop c.name) hx hn
      · exact .same rfl rfl (effect_perform (hP.stop c.name) hx)

namespace ControlPlane

variable {τ : Type} {M : ControlPlane σ τ} {s : State σ τ}

theorem minds_reaction (hP : M.platform.Addresses view) {m : ModeState} {e : Env σ}
    (hc : m.status.isRunning = false → m.client = none) (name : String) (event : Event) :
    Minds view (m, e) (M.reaction name event m e) := by
  unfold reaction
  split
  · rename_i ha
    obtain ⟨hn, hname⟩ := ModeState.accepts_iff.mp ha
    split
    · split
      · exact .same rfl rfl (hP.rest.within.surrender _ e)
      · exact .refl _
    · refine Minds.refresh ?_
      have hfixed := Dispatch.fixed_answer M.platform M.policy.retryNanos event m e
      cases hr : m.status.isRunning with
      | true =>
        have hdeeds : Deeds M.platform (m, e) _ := Dispatch.deeds_answer M.policy.retryNanos event hr
        refine .of_heeds (Dispatch.heeds_answer hP hname M.policy.retryNanos event) ?_ ?_
        · rw [ModeState.runsOn?_of_isRunning hr]
          exact hname
        · rw [ModeState.runsOn?_of_isRunning (hdeeds.isRunning hr), ModeState.carrierName?_of_fixed hfixed]
          exact hname
      | false =>
        -- A mode that is disconnecting reports no address, and does nothing.
        obtain ⟨hfading, hidle⟩ := Dispatch.answer_ending (P := M.platform) (e := e) M.policy.retryNanos event
          (Status.eq_disconnecting hr hn) (hc hr)
        have hover : (Dispatch.answer M.platform M.policy.retryNanos event m e).1.runsOn? = none := by
          refine ModeState.runsOn?_of_not ?_
          rcases hfading.status with hs | ⟨hs, -⟩ <;> rw [hs] <;> rfl
        refine ⟨fun h => ?_, fun name _ => ?_, fun name hn => ?_⟩
        · refine ModeState.addressed_of_eq ?_ _
          rcases hfading.address with ha | ha
          · exact ha.trans (h.of_not hr)
          · exact ha
        · rw [hidle]
        · rw [hover] at hn
          cases hn
  · exact .refl _

/-- Reports are true, and the modes run on different interfaces. -/
def Settled (view : σ → String → Option Addressing) (s : State σ τ) : Prop :=
  ∀ r, s.roster.modes = some r → r.Apart ∧ r.Addressed (view s.env.platform)

theorem settled_receive (hP : M.platform.Addresses view) (hc : ∀ r, s.roster.modes = some r → r.Consistent none)
    (h : Settled view s) (name : String) (event : Event) : Settled view (M.receive name event s) := by
  cases hr : s.roster.modes with
  | none =>
    rw [receive_of_none hr]
    exact h
  | some r =>
    obtain ⟨hapart, haddressed⟩ := h r hr
    have hnormal : Minds view (r.get .normal, s.env) (M.reaction name event r.normal s.env) :=
      minds_reaction hP (hc r hr).no_client name event
    obtain ⟨hapart₁, haddressed₁⟩ := hnormal.modes hapart haddressed
    generalize hx : M.reaction name event r.normal s.env = x at hapart₁ haddressed₁
    have hother : Minds view ((r.set .normal x.1).get .accessPoint, x.2) (M.reaction name event r.accessPoint x.2) :=
      minds_reaction hP (fun _ => (hc r hr).accessPoint) name event
    obtain ⟨hapart₂, haddressed₂⟩ := hother.modes hapart₁ haddressed₁
    have hv := view_receive (M := M) hr name event
    rw [hx] at hv
    intro r' hr'
    have hmodes : (M.receive name event s).roster.modes = _ := congrArg Prod.fst hv
    have henv : (M.receive name event s).env = _ := congrArg Prod.snd hv
    rw [hmodes] at hr'
    cases hr'
    rw [henv]
    exact ⟨hapart₂, haddressed₂⟩

theorem settled_announced (hP : M.platform.Addresses view) (hc : ∀ r, s.roster.modes = some r → r.Consistent none)
    (h : Settled view s) (m : ModeState) : Settled view (M.announced m s) := by
  unfold announced
  split
  · rename_i name _
    have hasked : Settled view { s with env := (s.env.perform (M.platform.announceStop name)).2 } := by
      intro r hr
      have hview : view (s.env.perform (M.platform.announceStop name)).2.platform = view s.env.platform :=
        (hP.rest.announceStop name).eq _
      simp only [hview]
      exact h r hr
    rw [announceStop_eq]
    simp only
    split
    · refine settled_receive hP ?_ hasked name .ifDownPre
      exact hc
    · exact hasked
  · exact h

theorem settled_stop (hP : M.platform.Addresses view) (hl : ∀ r, s.roster.modes = some r → r.Labelled)
    (hc : ∀ r, s.roster.modes = some r → r.Consistent none) (hs : Settled view s) (h : Handle) :
    Settled view (M.stop h s).2 := by
  have hof {s' s'' : State σ τ} (hs' : Settled view s') (hv : s''.view = s'.view) : Settled view s'' := by
    have hmodes : s''.roster.modes = s'.roster.modes := congrArg Prod.fst hv
    have henv : s''.env = s'.env := congrArg Prod.snd hv
    intro r hr
    rw [henv]
    exact hs' r (hmodes ▸ hr)
  -- What is settled when the interface has been announced.
  have hannounced (mode : Mode) {r : Modes} {s' : State σ τ} (hr : s.roster.modes = some r) (hs' : s'.view = s.view) :
      Settled view (M.announced (r.get mode) s') ∧
        (M.announced (r.get mode) s').roster.modes = some ((M.heard? (r.get mode) s.env).elim r r.givenBack) := by
    have hmodes' : s'.roster.modes = s.roster.modes := congrArg Prod.fst hs'
    have henv' : s'.env = s.env := congrArg Prod.snd hs'
    have hroster := roster_announced (M := M) (r.get mode) s'
    rw [hmodes', henv', hr, Option.map_some] at hroster
    exact ⟨settled_announced hP (hmodes'.symm ▸ hc) (hof hs hs') (r.get mode), congrArg Roster.modes hroster⟩
  rcases stop_cases hl h with
    ⟨_, -, hv⟩ | ⟨mode, r, s', -, hr, hs', -, -, -, hv⟩ | ⟨mode, r, r₁, s', x, -, hr, hs', hrun, -, hr₁, hx, -, hv⟩
  · exact hof hs hv
  · obtain ⟨hannounced, hmodes⟩ := hannounced mode hr hs'
    refine hof hannounced (hv.trans ?_)
    rw [State.view, hmodes]
  · obtain ⟨hannounced, hmodes⟩ := hannounced mode hr hs'
    rw [← hr₁] at hmodes
    obtain ⟨hapart, haddressed⟩ := hannounced r₁ hmodes
    have hrun₁ : (r₁.get mode).status.isRunning = true := by
      rw [hr₁, (surrendered_givenBack r _).status]
      exact hrun
    have hminds := Link.minds_stop hP (e := (M.announced (r.get mode) s').env) hrun₁
    rw [← hx] at hminds
    have hdone := hminds.refresh.modes hapart haddressed
    have hmodes : (M.stop h s).2.roster.modes = _ := congrArg Prod.fst hv
    have henv : (M.stop h s).2.env = _ := congrArg Prod.snd hv
    intro r' hr'
    rw [hmodes] at hr'
    cases hr'
    rw [henv]
    exact hdone

/-! ## Runs -/

def still (M : ControlPlane σ τ) : ControlPlane σ τ := { M with platform := M.platform.still }

theorem subscribeAll_still (M : ControlPlane σ τ) (done names : List String) (e : Env σ) :
    M.still.subscribeAll done names e = M.subscribeAll done names e := by
  induction names generalizing done e with
  | nil => rfl
  | cons name names ih =>
    have hone : e.perform (M.still.platform.subscribe name) = e.perform (M.platform.subscribe name) := rfl
    unfold subscribeAll
    rw [hone]
    split
    · rfl
    · exact ih _ _

/-- Only events and stops change the address of an interface. -/
theorem step_still (M : ControlPlane σ τ) {mv : Move σ τ} (he : ∀ name event, mv ≠ .event name event)
    (hs : ∀ h, mv ≠ .stop h) (s : State σ τ) : M.still.step mv s = M.step mv s := by
  cases mv with
  | event name event => exact absurd rfl (he name event)
  | stop h => exact absurd rfl (hs h)
  | setUp =>
    have hall : M.still.subscribeAll = M.subscribeAll :=
      funext fun done => funext fun names => funext fun e => subscribeAll_still M done names e
    simp only [step, setUp, hall]
    rfl
  | _ => rfl

/-- Reports are true. -/
def Truthful (view : σ → String → Option Addressing) (s : State σ τ) : Prop :=
  ∀ r, s.roster.modes = some r → r.Addressed (view s.env.platform)

/-- A mode whose interface was started reports no address yet, nor does one whose interface was not. -/
theorem addressed_start {r : Modes} {held : String → Option Addressing}
    (hl : ∀ r, s.roster.modes = some r → r.Labelled) (hr : r.Addressed held) (hs : s.roster.modes = some r)
    {h : Handle} {source : ParameterSource} {r' : Modes}
    (hr' : (M.start h source s).2.roster.modes = some r') : r'.Addressed held := by
  rcases start_cases hl h source with ⟨_, -, hv⟩ | ⟨mode, r₀, m, -, hs₀, -, hv, hm⟩
  · rw [hv, hs] at hr'
    cases hr'
    exact hr
  · rw [hs] at hs₀
    cases hs₀
    rw [hv] at hr'
    cases hr'
    intro mode'
    rw [Modes.get_set]
    split
    · refine ModeState.addressed_of_eq ?_ held
      rcases hm with ⟨-, rfl⟩ | ⟨-, c, p, rfl, -⟩
      · rfl
      · rw [ModeState.begun, ModeState.refresh_snd]
        rfl
    · exact hr mode'

/-- Every move through the control plane leaves reports true, if the modes ran on different interfaces
    before. -/
theorem truthful_step (hP : M.platform.Addresses view) (hl : ∀ r, s.roster.modes = some r → r.Labelled)
    (hc : ∀ r, s.roster.modes = some r → r.Consistent none) (ha : ∀ r, s.roster.modes = some r → r.Apart)
    (h : Truthful view s) {mv : Move σ τ} (hi : mv.isInner = true) : Truthful view (M.step mv s) := by
  have hsettled : Settled view s := fun r hr => ⟨ha r hr, h r hr⟩
  by_cases he : ∃ name event, mv = .event name event
  · obtain ⟨name, event, rfl⟩ := he
    exact fun r hr => (settled_receive hP hc hsettled name event r hr).2
  by_cases hs : ∃ h, mv = .stop h
  · obtain ⟨handle, rfl⟩ := hs
    exact fun r hr => (settled_stop hP hl hc hsettled handle r hr).2
  -- No other move changes an address, and none changes what a mode reports but a start.
  have hview : view (M.step mv s).env.platform = view s.env.platform := by
    have hstep := (step_leaves (M := M.still) hP.rest hl hc hi).1
    rwa [step_still M (fun name event heq => he ⟨name, event, heq⟩) fun handle heq => hs ⟨handle, heq⟩] at hstep
  intro r' hr'
  rw [hview]
  cases hr : s.roster.modes with
  | none =>
    obtain ⟨interfaces, hfresh⟩ := fresh_step hr mv hr'
    intro mode
    obtain ⟨_, _, hm⟩ := get_ofInterfaces? hfresh mode
    rw [hm]
    exact ModeState.addressed_of_eq rfl _
  | some r =>
    cases mv with
    | start handle source => exact addressed_start hl (h r hr) hr hr'
    | stop handle => exact absurd ⟨handle, rfl⟩ hs
    | event name event => exact absurd ⟨name, event, rfl⟩ he
    | _ =>
      intro mode
      obtain ⟨b, hm⟩ := calm_step (hl r hr) hr rfl hr' mode
      rw [hm]
      exact h r hr mode

end ControlPlane

end

namespace ControlPlane

variable {τ : Type} {M : ControlPlane Board τ} {s : State Board τ}

/-- The modes run on different interfaces, and nobody but the control plane gives them addresses. -/
def Uncontested (s : State Board τ) (mv : Move Board τ) : Prop :=
  (∀ r ∈ s.roster.modes, r.Apart) ∧
    match mv with
    | .outside platform _ _ => (platform s.env.platform).addressOf = s.env.platform.addressOf
    | _ => True

/-- What happens to an interface outside gives nobody an address. -/
theorem uncontested_occur (ha : ∀ r ∈ s.roster.modes, r.Apart) (name : String) (event : Event) (now : Nat) :
    Uncontested s (.outside (fun b => { b with inner := (b.inner.occur name event).2 }) id now) :=
  ⟨ha, Network.addressOf_occur name event s.env.platform.inner⟩

/-- On a simulated board, whatever is called, whichever calls are made to fail and whatever events come:
    while the modes run on different interfaces, an address that a mode reports is the one that its
    interface has. -/
theorem reach_addressed (hM : M.platform = Board.platform) {env : Env Board} {store : τ}
    (hs : M.Reach Uncontested (M.initial env store) s) {r : Modes} (hr : s.roster.modes = some r) (mode : Mode)
    (ha : (r.get mode).address ≠ .unspecified) :
    ∃ name, (r.get mode).carrierName? = some name ∧
      s.env.platform.addressOf name = some (r.get mode).address := by
  have hP : M.platform.Addresses Board.addressOf := hM ▸ Board.addresses
  have htrue : Truthful Board.addressOf s := by
    clear hr ha
    induction hs with
    | refl => exact fun r hr => nomatch hr
    | @step s mv hs huncontested ih =>
      by_cases hi : mv.isInner = true
      · exact truthful_step hP (hs.labelled rfl) (fun r hr => hs.consistent rfl hr) huncontested.1 ih hi
      · cases mv with
        | outside platform store now =>
          intro r hr
          have hsame : (platform s.env.platform).addressOf = s.env.platform.addressOf := huncontested.2
          have hreport := ih r hr
          rwa [← hsame] at hreport
        | dissolve =>
          intro r hr
          by_cases hd : (M.dissolve s).1 = .ok ()
          · have hgone : (M.step .dissolve s).roster.modes = none := (modes_dissolve_ok hd).2
            rw [hr] at hgone
            cases hgone
          · have hrefused : M.step .dissolve s = s := dissolve_refused hd
            rw [hrefused] at hr ⊢
            exact ih r hr
        | _ => exact absurd rfl hi
  obtain ⟨name, hname, hheld⟩ := htrue r hr mode ha
  have hrun : (r.get mode).status.isRunning = true := by
    by_contra hn
    rw [ModeState.runsOn?_of_not (eq_false_of_ne_true hn)] at hname
    cases hname
  exact ⟨name, ModeState.runsOn?_of_isRunning hrun ▸ hname, hheld⟩

end ControlPlane

namespace Camera

open ControlPlane

/-- The next lease is granted for another address. -/
def readdress (b : Board) : Board :=
  { b with
    inner := { b.inner with script := [.ok { Network.defaultGrant with address := ⟨192, 168, 0, 77⟩ }] } }

theorem addressOf_readdress (b : Board) : (readdress b).addressOf = b.addressOf := rfl

/-- Half an hour later the lease is renewed. -/
def renumber : List (Move Board Shelf) := bothUp ++ [.outside readdress id (1800 * second), .event "eth0" .tick]

theorem renumber_addressed :
    let s := plane.run renumber off
    ∃ r, s.roster.modes = some r ∧ r.normal.address.address = ⟨192, 168, 0, 77⟩ ∧
      (∃ name, (r.get .normal).carrierName? = some name ∧
        s.env.platform.addressOf name = some (r.get .normal).address) ∧
      ∃ name, (r.get .accessPoint).carrierName? = some name ∧
        s.env.platform.addressOf name = some (r.get .accessPoint).address := by
  intro s
  have hm : s.roster.modes.any (fun r => decide (r.normal.address.address = ⟨192, 168, 0, 77⟩) &&
      decide (r.normal.address ≠ .unspecified) && decide (r.accessPoint.address ≠ .unspecified)) = true := by
    decide +kernel
  obtain ⟨r, hr, hd⟩ := (Option.any_eq_true _ _).mp hm
  simp only [Bool.and_eq_true, decide_eq_true_eq] at hd
  have huncontested : plane.Allowed Uncontested off renumber := by
    refine ⟨⟨?_, trivial⟩, ⟨?_, trivial⟩, ⟨?_, trivial⟩, ⟨?_, trivial⟩, ⟨?_, trivial⟩, ⟨?_, trivial⟩,
      ⟨?_, trivial⟩, ⟨?_, trivial⟩, ⟨?_, addressOf_readdress _⟩, ⟨?_, trivial⟩, trivial⟩ <;> decide +kernel
  have hs : plane.Reach Uncontested off s := reach_run huncontested
  exact ⟨r, hr, hd.1.1, reach_addressed rfl hs hr .normal hd.1.2, reach_addressed rfl hs hr .accessPoint hd.2⟩

end Camera

end Connectivity
