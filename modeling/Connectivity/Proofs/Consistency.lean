/-
  Connectivity.Proofs.Consistency — the state of the normal mode between moves.
  - `Consistent`: a connection has an interface that was assigned to the mode; it has an address
    only while connected; it is connected only with interface and link up; and a DHCP session is
    held only by a running connection that is not static, with a lease exactly while connected.
  - `consistent_answer`, `consistent_stop`, …: every move of a link keeps it, whatever the platform
    answers. With a session held, only a lease connects; so the last part wants a platform that
    always says the same about a DHCP client of its own. `own` is what it says, if it does.
  - `reach_consistent`: so every run does. `NormalInvariant` says what a user has of it.
-/

import Connectivity.Proofs.Changes

namespace Connectivity

theorem Status.ne_of_isRunning {s : Status} (h : s.isRunning = true) : s ≠ .disconnected := by
  rintro rfl
  cases h

theorem Status.isRunning_iff {s : Status} : s.isRunning = true ↔ s = .connecting ∨ s = .connected := by
  cases s <;> decide

theorem Status.eq_disconnecting {s : Status} (hr : s.isRunning = false) (hn : s ≠ .disconnected) :
    s = .disconnecting := by
  cases s with
  | disconnecting => rfl
  | disconnected => exact absurd rfl hn
  | _ => cases hr

/-- What holds of a mode with a DHCP session. -/
structure ModeState.Holds (own : Option Bool) (m : ModeState) (c : Client) : Prop where
  running : m.status = .connecting ∨ m.status = .connected
  up : m.ifUp = true ∧ m.linkUp = true
  dynamic : m.parameters.isStatic = false
  leased : c.lease.isSome = true → m.status = .connected
  connectedByLease : ∀ b, own = some b → b = false ∧ (m.status = .connected → c.lease.isSome = true)

/-- The state of the normal mode, as moves leave it. -/
structure ModeState.Consistent (own : Option Bool) (m : ModeState) : Prop where
  address : m.address ≠ .unspecified → m.status = .connected
  connected : m.status = .connected → m.ifUp = true ∧ m.linkUp = true
  saved : m.status ≠ .disconnected → m.saved.isSome = true
  carrier : m.status ≠ .disconnected →
    ∃ c i, m.carrier = some c ∧ m.interface? c.kind = some i ∧ c.name = i.name
  session : ∀ c, m.client = some c → m.Holds own c

theorem ModeState.Holds.not_disconnected {own : Option Bool} {m : ModeState} {c : Client}
    (h : m.Holds own c) : m.status ≠ .disconnected := by
  rcases h.running with hr | hr <;> rw [hr] <;> decide

namespace ModeState.Consistent

variable {own : Option Bool} {m m' : ModeState}

/-- A state with neither address nor session, of which nothing is asked but its interface. -/
theorem of_idle (ha : m.address = .unspecified) (hc : m.client = none) (hn : m.status ≠ .connected)
    (hs : m.status ≠ .disconnected → m.saved.isSome = true)
    (hi : m.status ≠ .disconnected →
      ∃ c i, m.carrier = some c ∧ m.interface? c.kind = some i ∧ c.name = i.name) :
    m.Consistent own where
  address h := absurd ha h
  connected h := absurd h hn
  saved := hs
  carrier := hi
  session c h := by
    rw [hc] at h
    cases h

/-- An end to a connection, whole or in part. -/
theorem idle (h : m.Consistent own) (hf : m'.fixed = m.fixed) (ha : m'.address = .unspecified)
    (hc : m'.client = none) (hn : m'.status ≠ .connected)
    (hd : m'.status ≠ .disconnected → m.status ≠ .disconnected) : m'.Consistent own := by
  refine of_idle ha hc hn ?_ ?_
  · intro hs
    rw [saved_of_fixed hf]
    exact h.saved (hd hs)
  · intro hs
    simp only [carrier_of_fixed hf, interface?_of_fixed hf]
    exact h.carrier (hd hs)

theorem of_disconnected (ha : m.address = .unspecified) (hc : m.client = none)
    (hs : m.status = .disconnected) : m.Consistent own := by
  refine of_idle ha hc ?_ (absurd hs) (absurd hs)
  rw [hs]
  decide

theorem no_client (h : m.Consistent own) (hs : m.status.isRunning = false) : m.client = none := by
  cases hc : m.client with
  | none => rfl
  | some c => rcases (h.session c hc).running with hr | hr <;> rw [hr] at hs <;> cases hs

theorem no_address (h : m.Consistent own) (hs : m.status ≠ .connected) : m.address = .unspecified := by
  by_cases ha : m.address = .unspecified
  · exact ha
  · exact absurd (h.address ha) hs

/-- A lease is held only while connected. -/
theorem no_lease (h : m.Consistent own) (hs : m.status = .connecting) {c : Client} (hc : m.client = some c) :
    c.lease = none := by
  cases hl : c.lease with
  | none => rfl
  | some t =>
    have hconnected := (h.session c hc).leased (by rw [hl]; rfl)
    rw [hs] at hconnected
    cases hconnected

/-- What the callback was told, and whether there is one, does not matter. -/
theorem telling (h : m.Consistent own) (told : Standing) (listening : Bool) :
    { m with told, listening }.Consistent own where
  address := h.address
  connected := h.connected
  saved := h.saved
  carrier := h.carrier
  session c hc :=
    let k := h.session c hc
    ⟨k.running, k.up, k.dynamic, k.leased, k.connectedByLease⟩

theorem refresh (h : m.Consistent own) : m.refresh.2.Consistent own := by
  rw [refresh_snd]
  exact h.telling m.standing m.listening

/-- A session given up, which leaves the rest. -/
theorem noSession (h : m.Consistent own) : { m with client := none }.Consistent own where
  address := h.address
  connected := h.connected
  saved := h.saved
  carrier := h.carrier
  session c hc := by cases hc

/-- Interface or link is up; nothing depends on either being down. -/
theorem up (h : m.Consistent own) (ifUp linkUp : Bool) (hi : m.ifUp = true → ifUp = true)
    (hl : m.linkUp = true → linkUp = true) : { m with ifUp, linkUp }.Consistent own where
  address := h.address
  connected hs := ⟨hi (h.connected hs).1, hl (h.connected hs).2⟩
  saved := h.saved
  carrier := h.carrier
  session c hc :=
    let k := h.session c hc
    ⟨k.running, ⟨hi k.up.1, hl k.up.2⟩, k.dynamic, k.leased, k.connectedByLease⟩

/-- A connection that its own session has no part in. -/
theorem connect (h : m.Consistent own) (hup : m.ifUp = true ∧ m.linkUp = true)
    (hs : m.status ≠ .disconnected) (address : Addressing)
    (ho : ∀ b, own = some b → m.client = none) :
    { m with address, status := .connected }.Consistent own where
  address _ := rfl
  connected _ := hup
  saved _ := h.saved hs
  carrier _ := h.carrier hs
  session c hc :=
    { running := .inr rfl
      up := hup
      dynamic := (h.session c hc).dynamic
      leased := fun _ => rfl
      connectedByLease := fun b hb => by
        have hn := (show m.client = some c from hc).symm.trans (ho b hb)
        cases hn }

/-- A lease granted in the session that is held. -/
theorem grant (h : m.Consistent own) {c : Client} (hc : m.client = some c) (address : Addressing)
    (timers : Timers) (now : Nat) :
    { m with client := some (c.granted timers now), address, status := .connected }.Consistent own :=
  let k := h.session c hc
  { address := fun _ => rfl
    connected := fun _ => k.up
    saved := fun _ => h.saved k.not_disconnected
    carrier := fun _ => h.carrier k.not_disconnected
    session := fun c' hc' => by
      cases hc'
      refine ⟨.inr rfl, k.up, k.dynamic, fun _ => rfl, fun b hb => ?_⟩
      exact ⟨(k.connectedByLease b hb).1, fun _ => rfl⟩ }

/-- Another client of the same session, with a lease exactly if the old one had. -/
theorem replace (h : m.Consistent own) {c c' : Client} (hc : m.client = some c)
    (hl : c'.lease.isSome = c.lease.isSome) : { m with client := some c' }.Consistent own where
  address := h.address
  connected := h.connected
  saved := h.saved
  carrier := h.carrier
  session c'' hc' := by
    cases hc'
    have k := h.session c hc
    exact ⟨k.running, k.up, k.dynamic, hl ▸ k.leased, hl ▸ k.connectedByLease⟩

/-- A session without a lease, in a mode that waits for one. -/
theorem waiting (h : m.Consistent own) {c : Client} (hs : m.status = .connecting)
    (hup : m.ifUp = true ∧ m.linkUp = true) (hd : m.parameters.isStatic = false)
    (ho : ∀ b, own = some b → b = false) (hl : c.lease = none) :
    { m with client := some c }.Consistent own where
  address := h.address
  connected := h.connected
  saved := h.saved
  carrier := h.carrier
  session c' hc' := by
    cases hc'
    have hn : m.status ≠ .connected := by
      rw [hs]
      decide
    refine ⟨.inl hs, hup, hd, fun hsome => ?_, fun b hb => ⟨ho b hb, fun hc => absurd hc hn⟩⟩
    rw [hl] at hsome
    cases hsome

end ModeState.Consistent

/-! ## Moves of a link -/

section
variable {σ : Type} (P : Platform σ) {own : Option Bool} {m : ModeState} {e : Env σ}

namespace Link

theorem consistent_start {kind : InterfaceKind} {p : Parameters} {m' : ModeState} {e' : Env σ}
    (h : start P kind p m.cleared e = (.ok (), m', e')) :
    { m' with saved := some p, status := .connecting }.Consistent own := by
  obtain ⟨i, hi, rfl⟩ := start_ok P h
  refine .of_idle rfl rfl ?_ ?_ ?_
  · intro hc
    cases hc
  · intro _
    rfl
  · intro _
    exact ⟨⟨i.name, kind⟩, i, rfl, hi, rfl⟩

theorem consistent_tearDown (carrier : Carrier) (h : m.Consistent own) (hr : m.status.isRunning = true) :
    (tearDown P carrier m e).1.Consistent own := by
  have hn := Status.ne_of_isRunning hr
  obtain ⟨down, ht⟩ := tearDown_fst P carrier m e
  rw [ht]
  refine h.idle rfl rfl rfl ?_ (fun _ => hn)
  intro hc
  cases down <;> cases hc

/-- The branch of a stop that finds no interface does not belong to a running connection. -/
theorem consistent_stop (h : m.Consistent own) (hr : m.status.isRunning = true) :
    (stop P m e).2.1.Consistent own := by
  have hn := Status.ne_of_isRunning hr
  obtain ⟨c, -, hc, -, -⟩ := h.carrier hn
  unfold stop
  rw [hc]
  simp only
  split
  · exact consistent_tearDown P c h hr
  · split
    · exact consistent_tearDown P c h hr
    · exact h

theorem consistent_assignStatic (name : String) (h : m.Consistent own) (hs : m.status ≠ .disconnected)
    (hup : m.ifUp = true ∧ m.linkUp = true) (hst : m.parameters.isStatic = true) :
    (assignStatic P name m e).1.Consistent own := by
  have hc : m.client = none := by
    cases hc : m.client with
    | none => rfl
    | some c =>
      have hd := (h.session c hc).dynamic
      rw [hst] at hd
      cases hd
  unfold assignStatic
  split
  · exact h.connect hup hs _ (fun _ _ => hc)
  · exact h

theorem consistent_askForLease (name : String) (h : m.Consistent own) :
    (askForLease P name m e).1.Consistent own := by
  unfold askForLease
  split
  · exact h
  · rename_i c hc
    split
    · exact h.grant hc _ _ _
    · exact h.replace hc (Client.isSome_lease_failed ..)

theorem consistent_extendLease (name : String) (mode : Renewal) (h : m.Consistent own)
    (hs : m.status = .connected) : (extendLease P name mode m e).1.Consistent own := by
  unfold extendLease
  split
  · exact h
  · rename_i c hc
    split
    · rename_i g timers e' _
      have hg := h.grant hc g.addressing timers e'.now
      rw [← hs] at hg
      exact hg
    · exact h.replace hc (Client.isSome_lease_failed ..)

/-- A session is opened only where the platform runs no client of its own. -/
theorem consistent_assignLease (name : String) (h : m.Consistent own) (hs : m.status = .connecting)
    (hup : m.ifUp = true ∧ m.linkUp = true) (hst : m.parameters.isStatic = false)
    (ho : ∀ b, own = some b → P.ownsDhcpClient e.platform = b) :
    (assignLease P name m e).1.Consistent own := by
  have hn : m.status ≠ .disconnected := by
    rw [hs]
    decide
  unfold assignLease
  split
  · rename_i hown
    split
    · have hc : ∀ b, own = some b → m.client = none := by
        intro b hb
        cases hc : m.client with
        | none => rfl
        | some c =>
          have hf := ((h.session c hc).connectedByLease b hb).1
          rw [← ho b hb, hown] at hf
          cases hf
      exact h.connect hup hn m.address hc
    · exact h
  · rename_i hown
    split
    · exact consistent_askForLease P name h
    · split
      · exact h
      · refine consistent_askForLease P name ?_
        have ho' : ∀ b, own = some b → b = false := by
          intro b hb
          rw [← ho b hb]
          exact eq_false_of_ne_true hown
        exact h.waiting hs hup hst ho' rfl

/-- Without its lease the connection waits for one again. -/
theorem consistent_startOver (name : String) {c : Client} (h : m.Consistent own) (hc : m.client = some c) :
    (startOver P name m e).1.Consistent own := by
  have k := h.session c hc
  have hidle : { m with client := none, address := .unspecified, status := .connecting }.Consistent own := by
    refine h.idle rfl rfl rfl ?_ (fun _ => k.not_disconnected)
    intro hs
    cases hs
  refine consistent_askForLease P name ?_
  rw [hc]
  exact hidle.waiting rfl k.up k.dynamic (fun b hb => (k.connectedByLease b hb).1) rfl

theorem consistent_gainLink (h : m.Consistent own) (hs : m.status = .connecting)
    (hup : m.ifUp = true ∧ m.linkUp = true) (ho : ∀ b, own = some b → P.ownsDhcpClient e.platform = b) :
    (gainLink P m e).1.Consistent own := by
  have hn : m.status ≠ .disconnected := by
    rw [hs]
    decide
  unfold gainLink
  split
  · exact h
  · split
    · rename_i hst
      exact consistent_assignStatic P _ h hn hup hst
    · rename_i hst
      exact consistent_assignLease P _ h hs hup (eq_false_of_ne_true hst) ho

/-- Whatever becomes of the flags as the link is lost. -/
theorem consistent_loseLink (h : m.Consistent own) (ifUp linkUp : Bool) :
    (loseLink P { m with ifUp, linkUp } e).1.Consistent own := by
  rw [loseLink_fst]
  refine h.idle rfl rfl rfl ?_ ?_
  · simp only
    split
    · decide
    · assumption
  · simp only
    split
    · rename_i hs
      intro _
      rw [hs]
      decide
    · exact id

theorem consistent_tick (retry : Nat) (h : m.Consistent own) : (tick P retry m e).1.Consistent own := by
  unfold tick
  split
  · exact h
  · split
    · rename_i c name hc _
      split
      · exact h
      · split
        · exact consistent_askForLease P name h
        · exact h
      · split
        · rename_i hs
          exact consistent_extendLease P name _ h hs
        · exact h
      · exact consistent_startOver P name h hc
    · exact h

end Link

namespace Dispatch

theorem consistent_settled (h : m.Consistent own) (hs : m.status = .disconnecting) :
    (settled m).Consistent own := by
  refine .of_disconnected (h.no_address ?_) (h.no_client ?_) rfl
  · rw [hs]
    decide
  · rw [hs]
    rfl

theorem consistent_bothUp (h : m.Consistent own)
    (ho : ∀ b, own = some b → P.ownsDhcpClient e.platform = b) : (bothUp P m e).1.Consistent own := by
  unfold bothUp
  split
  · rename_i hb
    simp only [Bool.and_eq_true, decide_eq_true_eq] at hb
    obtain ⟨⟨hs, hi⟩, hl⟩ := hb
    exact Link.consistent_gainLink P h hs ⟨hi, hl⟩ ho
  · exact h

theorem consistent_ethernet (event : Event) (h : m.Consistent own)
    (ho : ∀ b, own = some b → P.ownsDhcpClient e.platform = b) :
    (ethernet P event m e).1.Consistent own := by
  unfold ethernet
  split
  · exact consistent_bothUp P (h.up true m.linkUp (fun _ => rfl) id) ho
  · exact consistent_bothUp P (h.up m.ifUp true id (fun _ => rfl)) ho
  · exact Link.consistent_loseLink P h false false
  · exact Link.consistent_loseLink P h m.ifUp false
  · exact h

theorem consistent_station (event : Event) (h : m.Consistent own)
    (ho : ∀ b, own = some b → P.ownsDhcpClient e.platform = b) :
    (station P event m e).1.Consistent own := by
  unfold station
  split
  · have hup := h.up true true (fun _ => rfl) (fun _ => rfl)
    simp only
    split
    · rename_i hs
      exact Link.consistent_gainLink P hup hs ⟨rfl, rfl⟩ ho
    · exact hup
  · simp only
    split
    · rw [Link.restart_fst]
      exact Link.consistent_loseLink P h m.ifUp false
    · exact Link.consistent_loseLink P h m.ifUp false
  · simp only
    split
    · rename_i hs
      have hd := consistent_settled h hs
      exact hd
    · rw [Link.restart_fst]
      exact Link.consistent_loseLink P h false false
  · exact Link.consistent_loseLink P h m.ifUp false
  · exact Link.consistent_loseLink P h m.ifUp false
  · exact h

/-- The normal mode's answer to any event. -/
theorem consistent_answer (retry : Nat) (event : Event) (h : m.Consistent own) (hm : m.mode = .normal)
    (ho : ∀ b, own = some b → P.ownsDhcpClient e.platform = b) :
    (answer P retry event m e).1.Consistent own := by
  have hkind (event : Event) : (byKind P event m e).1.Consistent own := by
    unfold byKind
    rw [hm]
    cases m.carrierKind? with
    | none => exact h
    | some kind =>
      cases kind with
      | ethernet => exact consistent_ethernet P event h ho
      | wifi => exact consistent_station P event h ho
  unfold answer
  split
  · exact Link.consistent_tick P retry h
  · split
    · rename_i hs
      exact consistent_settled h hs
    · exact hkind _
  · exact hkind _

/-! ## The access point -/

/-- An access point opens no session. -/
theorem client_answer (retry : Nat) (event : Event) (hm : m.mode = .accessPoint) (hc : m.client = none) :
    (answer P retry event m e).1.client = none := by
  have hkind (event : Event) : (byKind P event m e).1.client = none := by
    unfold byKind
    rw [hm]
    simp only [accessPoint, Link.apReady, Link.clientJoined, Link.clientLeft]
    (repeat' split) <;> exact hc
  unfold answer
  split
  · unfold Link.tick
    rw [hc]
    split <;> exact hc
  · split
    · exact hc
    · exact hkind _
  · exact hkind _

end Dispatch

theorem Link.client_stop (hc : m.client = none) : (Link.stop P m e).2.1.client = none := by
  have htear (c : Carrier) (e : Env σ) : (Link.tearDown P c m e).1.client = none := by
    obtain ⟨down, h⟩ := Link.tearDown_fst P c m e
    rw [h]
  unfold Link.stop
  split
  · exact hc
  · split
    · exact htear _ _
    · split
      · exact htear _ _
      · exact hc

end

/-! ## Both modes -/

/-- The state of both modes: the normal one is consistent, the access point holds no session,
    callbacks know the standing of each, and the interfaces are those assigned when the control plane
    was set up. -/
structure Modes.Consistent (own : Option Bool) (r : Modes) : Prop where
  normal : r.normal.Consistent own
  accessPoint : r.accessPoint.client = none
  told : ∀ mode, (r.get mode).told = (r.get mode).standing
  assigned : ∃ r₀, Modes.ofInterfaces? r.interfaces = some r₀ ∧
    ∀ mode kind, (r.get mode).interface? kind = (r₀.get mode).interface? kind

/-- A mode that is not running holds no session. -/
theorem Modes.Consistent.no_client {own : Option Bool} {r : Modes} (h : r.Consistent own) {mode : Mode}
    (hs : (r.get mode).status.isRunning = false) : (r.get mode).client = none := by
  cases mode with
  | normal => exact h.normal.no_client hs
  | accessPoint => exact h.accessPoint

namespace ControlPlane

variable {σ τ : Type} {M : ControlPlane σ τ} {cap : Bool} {own : Option Bool} {x y : ModeState × Env σ}

theorem Turn.interface? (h : M.Turn cap x y) (kind : InterfaceKind) :
    y.1.interface? kind = x.1.interface? kind := by
  cases h with
  | listening => cases kind <;> rfl
  | @answered m e _ event =>
    rw [ModeState.refresh_snd]
    have hf := Dispatch.fixed_answer M.platform M.policy.retryNanos event m e
    have hi := ModeState.interface?_of_fixed hf kind
    cases kind <;> exact hi
  | gaveBack => cases kind <;> rfl
  | notStarted _ hs =>
    rw [Link.start_error _ hs]
    cases kind <;> rfl
  | started _ _ hs =>
    obtain ⟨i, -, rfl⟩ := Link.start_ok _ hs
    rw [ModeState.refresh_snd]
    cases kind <;> rfl
  | @stopped m e =>
    rw [ModeState.refresh_snd]
    have hi := ModeState.interface?_of_fixed (Link.fixed_stop M.platform m e) kind
    cases kind <;> exact hi

/-- Every turn of the normal mode keeps its state consistent. -/
theorem Turn.consistent (h : M.Turn cap x y) (hm : x.1.mode = .normal) (ho : ∀ b, own = some b → b = cap)
    (hx : x.1.Consistent own) : y.1.Consistent own := by
  cases h with
  | listening m e b => exact hx.telling m.told b
  | answered name event _ _ hc =>
    refine (Dispatch.consistent_answer M.platform _ event hx hm ?_).refresh
    intro b hb
    rw [hc hm, ho b hb]
  | gaveBack => exact hx.noSession
  | notStarted hs hst =>
    rw [Link.start_error _ hst]
    exact .of_disconnected rfl rfl hs
  | started _ _ hst => exact (Link.consistent_start M.platform hst).refresh
  | stopped hr => exact (Link.consistent_stop M.platform hx hr).refresh

theorem Turn.client (h : M.Turn cap x y) (hm : x.1.mode = .accessPoint) (hx : x.1.client = none) :
    y.1.client = none := by
  cases h with
  | listening => exact hx
  | answered name event =>
    rw [ModeState.refresh_snd]
    exact Dispatch.client_answer M.platform _ event hm hx
  | gaveBack => rfl
  | notStarted _ hst =>
    rw [Link.start_error _ hst]
    rfl
  | started _ _ hst =>
    obtain ⟨i, -, rfl⟩ := Link.start_ok _ hst
    rw [ModeState.refresh_snd]
    rfl
  | stopped =>
    rw [ModeState.refresh_snd]
    exact Link.client_stop M.platform hx

/-- Callbacks are told of every change of standing. -/
theorem Turn.told (h : M.Turn cap x y) (hx : x.1.told = x.1.standing) : y.1.told = y.1.standing := by
  cases h with
  | listening => exact hx
  | answered => rw [ModeState.refresh_snd]; rfl
  | gaveBack => exact hx
  | notStarted hd hst =>
    rw [Link.start_error _ hst]
    refine hx.trans ?_
    simp only [ModeState.standing, ModeState.cleared, hd]
  | started => rw [ModeState.refresh_snd]; rfl
  | stopped => rw [ModeState.refresh_snd]; rfl

theorem consistent_ofInterfaces? {interfaces : List Interface} {r : Modes}
    (h : Modes.ofInterfaces? interfaces = some r) : r.Consistent own := by
  have hr := h
  unfold Modes.ofInterfaces? at h
  simp only at h
  split at h
  · cases h
  · cases h
    refine ⟨.of_disconnected rfl rfl rfl, rfl, fun mode => ?_, _, hr, fun _ _ => rfl⟩
    cases mode <;> rfl

theorem consistent_set {r : Modes} {mode : Mode} {e : Env σ} (hr : r.Consistent own)
    (hl : r.Labelled) (ho : ∀ b, own = some b → b = cap) (h : M.Turn cap (r.get mode, e) x) :
    (r.set mode x.1).Consistent own := by
  obtain ⟨hn, ha, ht, r₀, hr₀, hi⟩ := hr
  refine ⟨?_, ?_, ?_, r₀, ?_, ?_⟩
  · cases mode with
    | normal => exact h.consistent (hl .normal) ho hn
    | accessPoint => exact hn
  · cases mode with
    | normal => exact ha
    | accessPoint => exact h.client (hl .accessPoint) ha
  · intro mode'
    rw [Modes.get_set]
    split
    · exact h.told (ht mode)
    · exact ht mode'
  · rw [Modes.interfaces_set]
    exact hr₀
  · intro mode' kind
    rw [Modes.get_set]
    split
    · rename_i hm
      rw [← hm, ← hi mode kind]
      exact h.interface? kind
    · exact hi mode' kind

/-- In a run whose platform says the same about a client of its own wherever `own` wants it. -/
theorem invariant_consistent {ok : State σ τ → Move σ τ → Prop}
    (ho : ∀ s mv, ok s mv → ∀ b, own = some b → b = M.capability s) :
    M.Invariant ok (fun v => ∀ r, v.1 = some r → r.Consistent own) where
  change hok hc hl hv r' hr' := by
    cases hc with
    | turn mode ht =>
      cases hr'
      exact consistent_set (hv _ rfl) (hl _ rfl) (ho _ _ hok) ht
    | asked => exact hv r' hr'
    | fresh hi =>
      cases hr'
      exact consistent_ofInterfaces? hi
  outside _ hv := hv
  gone _ _ _ r hr := by cases hr

theorem reach_consistent {ok : State σ τ → Move σ τ → Prop} {s₀ s : State σ τ}
    (ho : ∀ s mv, ok s mv → ∀ b, own = some b → b = M.capability s) (hs : s₀.roster.modes = none)
    (h : M.Reach ok s₀ s) {r : Modes} (hr : s.roster.modes = some r) : r.Consistent own := by
  have hl : ∀ r, s₀.roster.modes = some r → r.Labelled := by simp [hs]
  have hc : ∀ r, s₀.roster.modes = some r → r.Consistent own := by simp [hs]
  exact (h.holds (invariant_consistent ho) hl hc).1 r hr

theorem Reach.consistent {ok : State σ τ → Move σ τ → Prop} {s₀ s : State σ τ} (h : M.Reach ok s₀ s)
    (hs : s₀.roster.modes = none) {r : Modes} (hr : s.roster.modes = some r) : r.Consistent none :=
  reach_consistent (fun _ _ _ _ hb => by cases hb) hs h hr

/-- What a user can rely on about the normal mode between moves. -/
structure NormalInvariant (r : Modes) : Prop where
  address : r.normal.address ≠ .unspecified → r.normal.status = .connected
  connected : r.normal.status = .connected → r.normal.ifUp = true ∧ r.normal.linkUp = true
  session : ∀ c, r.normal.client = some c →
    r.normal.ifUp = true ∧ r.normal.linkUp = true ∧
    (r.normal.status = .connecting ∨ r.normal.status = .connected) ∧
    (∃ p, r.normal.saved = some p ∧ AddressMethod.ofRaw? p.normal.ipMethod ≠ some .static) ∧
    (c.lease.isSome = true ↔ r.normal.status = .connected)
  /-- The carrier is the interface that the mode was given at set-up, the first of its kind that is
      enabled for the cloud. -/
  carrier : r.normal.status ≠ .disconnected →
    ∃ c i, r.normal.carrier = some c ∧ c.name = i.name ∧ r.normal.interface? c.kind = some i ∧
      Modes.firstOf r.interfaces c.kind Interface.cloudEnabled = some i

theorem interface?_ofInterfaces? {interfaces : List Interface} {r : Modes}
    (h : Modes.ofInterfaces? interfaces = some r) (kind : InterfaceKind) :
    r.normal.interface? kind = Modes.firstOf interfaces kind Interface.cloudEnabled := by
  unfold Modes.ofInterfaces? at h
  simp only at h
  split at h
  · cases h
  · cases h
    cases kind <;> rfl

theorem NormalInvariant.of_consistent {b : Bool} {r : Modes} (h : r.Consistent (some b)) :
    NormalInvariant r := by
  obtain ⟨hn, -, -, r₀, hr₀, hi⟩ := h
  refine ⟨hn.address, hn.connected, ?_, ?_⟩
  · intro c hc
    have k := hn.session c hc
    obtain ⟨p, hp⟩ := Option.isSome_iff_exists.mp (hn.saved k.not_disconnected)
    have hst := k.dynamic
    rw [ModeState.parameters, hp] at hst
    exact ⟨k.up.1, k.up.2, k.running, ⟨p, hp, of_decide_eq_false hst⟩, k.leased,
      (k.connectedByLease b rfl).2⟩
  · intro hs
    obtain ⟨c, i, hc, hk, hname⟩ := hn.carrier hs
    refine ⟨c, i, hc, hname, hk, ?_⟩
    rw [← interface?_ofInterfaces? hr₀, ← hk]
    exact (hi .normal c.kind).symm

/-- Whatever is called, whatever events arrive and whatever the platform answers, while it always
    says the same about a DHCP client of its own. -/
theorem reach_normalInvariant {b : Bool} {env : Env σ} {store : τ} {s : State σ τ} {r : Modes}
    (h : M.Reach (fun s _ => M.capability s = b) (M.initial env store) s)
    (hr : s.roster.modes = some r) : NormalInvariant r := by
  have ho : ∀ s mv, (fun (s : State σ τ) (_ : Move σ τ) => M.capability s = b) s mv →
      ∀ b', some b = some b' → b' = M.capability s := by
    intro s _ hok b' hb
    cases hb
    exact hok.symm
  exact .of_consistent (reach_consistent ho rfl h hr)

open Camera in
theorem join_normalInvariant :
    ∃ r, (plane.run join off).roster.modes = some r ∧ r.normal.status = .connected ∧
      (∃ c, r.normal.client = some c ∧ c.lease.isSome = true) ∧ NormalInvariant r := by
  have hm : (plane.run join off).roster.modes.any (fun r =>
      decide (r.normal.status = .connected) && r.normal.client.any (·.lease.isSome)) = true := by
    decide +kernel
  obtain ⟨r, hr, hd⟩ := (Option.any_eq_true _ _).mp hm
  simp only [Bool.and_eq_true, decide_eq_true_eq, Option.any_eq_true] at hd
  refine ⟨r, hr, hd.1, hd.2, ?_⟩
  refine reach_normalInvariant (b := false) (reach_run ?_) hr
  decide +kernel

end ControlPlane

end Connectivity
