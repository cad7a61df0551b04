/-
  Connectivity.Proofs.Deeds — what a mode does as it answers an event, one deed at a time.
  - `Deed`: the mode opens or closes a session, starts or stops its interface or starts a server,
    each with what its state makes of the answer; or it runs errands, from which the platform holds
    nothing more and nothing less, and notes what came of them.
  - `deeds_answer`: a running mode answers every event by deeds, so it goes on running.
  - `answer_ending`: a mode that is disconnecting does nothing, and only the events that say that
    its interface is down bring it to its end.
-/

import Mathlib.Logic.Relation
import Connectivity.Proofs.LinkStates

namespace Connectivity

variable {σ : Type} {P : Platform σ}

/-! ## Deeds -/

/-- A light, or a call that leaves no more and no less for the platform to hold. -/
inductive Errand (P : Platform σ) (e e' : Env σ) : Prop
  | signal (x : Signal) (on : Bool) : e' = e.signal x on → Errand P e e'
  | mac {name : String} {answer : Except PlatformError HardwareAddress} :
      e.perform (P.mac name) = (answer, e') → Errand P e e'
  | setAddress {name : String} {addressing : Addressing} {answer : Except PlatformError Unit} :
      e.perform (P.setAddress name addressing) = (answer, e') → Errand P e e'
  | setMethod {name : String} {method : AddressMethod} {answer : Except PlatformError Unit} :
      e.perform (P.setMethod name method) = (answer, e') → Errand P e e'
  | request {id : SessionId} {answer : Except PlatformError Grant} :
      e.perform (P.request id) = (answer, e') → Errand P e e'
  | renew {id : SessionId} {mode : Renewal} {answer : Except PlatformError Grant} :
      e.perform (P.renew id mode) = (answer, e') → Errand P e e'
  /-- A session that is not opened. -/
  | noSession {name : String} {mac : HardwareAddress} {err : PlatformError} :
      e.perform (P.openSession name mac) = (.error err, e') → Errand P e e'
  /-- A server that is not started. -/
  | noServer {name : String} {setup : ServerSetup} {err : PlatformError} :
      e.perform (P.startServer name setup) = (.error err, e') → Errand P e e'

def Errands (P : Platform σ) := Relation.ReflTransGen (Errand P)

/-- A mode has the same interface, session and server in both states, and runs in the second. -/
structure SameHoldings (m m' : ModeState) : Prop where
  fixed : m'.fixed = m.fixed
  session : m'.client.map (·.session) = m.client.map (·.session)
  server : m'.serverRunning = m.serverRunning
  running : m'.status.isRunning = true

/-- One thing that a running mode does. -/
inductive Deed (P : Platform σ) : ModeState × Env σ → ModeState × Env σ → Prop
  | errands {m m' : ModeState} {e e' : Env σ} : SameHoldings m m' → Errands P e e' → Deed P (m, e) (m', e')
  | opened {m : ModeState} {e e' : Env σ} {name : String} {mac : HardwareAddress} {id : SessionId} :
      m.mode = .normal → m.client = none → e.perform (P.openSession name mac) = (.ok id, e') →
      Deed P (m, e) ({ m with client := some { session := id } }, e')
  | closed {m : ModeState} {e : Env σ} {c : Client} :
      m.client = some c → Deed P (m, e) ({ m with client := none }, Link.hangUp P c.session e)
  | started {m : ModeState} {e e' : Env σ} {name : String} {answer : Except PlatformError Unit} :
      m.carrierName? = some name → e.perform (P.start name) = (answer, e') → Deed P (m, e) (m, e')
  | halted {m : ModeState} {e e' : Env σ} {name : String} {answer : Except PlatformError Unit} :
      m.carrierName? = some name → e.perform (P.stop name) = (answer, e') → Deed P (m, e) (m, e')
  | served {m : ModeState} {e e' : Env σ} {name : String} {setup : ServerSetup} :
      m.mode = .accessPoint → m.carrierName? = some name →
      e.perform (P.startServer name setup) = (.ok (), e') →
      Deed P (m, e) ({ m with serverRunning := true }, e')

def Deeds (P : Platform σ) := Relation.ReflTransGen (Deed P)

theorem SameHoldings.refl {m : ModeState} (hr : m.status.isRunning = true) : SameHoldings m m := ⟨rfl, rfl, rfl, hr⟩

/-- A mode runs errands and holds what it held. -/
def RunsErrands (P : Platform σ) (x y : ModeState × Env σ) : Prop := SameHoldings x.1 y.1 ∧ Errands P x.2 y.2

theorem RunsErrands.deeds {x y : ModeState × Env σ} (h : RunsErrands P x y) : Deeds P x y := .single (.errands h.1 h.2)

theorem RunsErrands.trans {x y z : ModeState × Env σ} (h : RunsErrands P x y) (h' : RunsErrands P y z) :
    RunsErrands P x z :=
  ⟨⟨h'.1.fixed.trans h.1.fixed, h'.1.session.trans h.1.session, h'.1.server.trans h.1.server, h'.1.running⟩,
    h.2.trans h'.2⟩

/-- A mode that does deeds goes on running. -/
theorem Deeds.isRunning {x y : ModeState × Env σ} (h : Deeds P x y) (hx : x.1.status.isRunning = true) :
    y.1.status.isRunning = true := by
  induction h with
  | refl => exact hx
  | tail _ hd ih =>
    cases hd with
    | errands hn _ => exact hn.running
    | opened => exact ih
    | closed => exact ih
    | started => exact ih
    | halted => exact ih
    | served => exact ih

/-! ## Links -/

namespace Link

variable {m : ModeState} {e : Env σ}

theorem errands_signal (e : Env σ) (x : Signal) (on : Bool) : Errands P e (e.signal x on) :=
  .single (.signal x on rfl)

theorem errands_becomeConnected (m : ModeState) (e : Env σ) : Errands P e (becomeConnected m e).2 := by
  have hends (e : Env σ) : Errands P e ((e.signal .errorHardware false).signal .dhcpRecovering false) :=
    (errands_signal e _ _).trans (errands_signal _ _ _)
  unfold becomeConnected
  split
  · rename_i kind _
    have hlights : Errands P e ((e.signal (connectingSignal kind) false).signal (connectedSignal m.mode kind) true) :=
      (errands_signal e _ _).trans (errands_signal _ _ _)
    exact hlights.trans (hends _)
  · exact hends e

theorem errands_setStatic (name : String) (texts : AddressTexts) (e : Env σ) :
    Errands P e (setStatic P name texts e).2 := by
  unfold setStatic
  split
  · exact .refl
  · split
    · rename_i hx
      exact .single (.setMethod hx)
    · rename_i hx
      split <;> rename_i hy <;> exact (Relation.ReflTransGen.single (.setMethod hx)).tail (.setAddress hy)

theorem errands_attempt (name : String) (ask : Action σ Grant) (e : Env σ)
    (hask : ∀ answer e', e.perform ask = (answer, e') → Errand P e e') :
    Errands P e (attempt P name ask e).2 := by
  unfold attempt
  split
  · rename_i hx
    exact .single (hask _ _ hx)
  · rename_i hx
    have h1 : Errands P e _ := .single (hask _ _ hx)
    split
    · exact h1
    · split <;> rename_i hy <;> exact h1.tail (.setAddress hy)

theorem runsErrands_assignStatic (name : String) (hr : m.status.isRunning = true) :
    RunsErrands P (m, e) (assignStatic P name m e) := by
  have h1 : Errands P e (setStatic P name m.parameters.normal.ip e).2 := errands_setStatic name _ e
  unfold assignStatic
  split <;> rename_i hx <;> rw [hx] at h1
  · exact ⟨⟨rfl, rfl, rfl, rfl⟩, h1.trans (errands_becomeConnected _ _)⟩
  · exact ⟨.refl hr, h1.trans (errands_signal _ _ _)⟩

theorem runsErrands_askForLease (name : String) (hr : m.status.isRunning = true) :
    RunsErrands P (m, e) (askForLease P name m e) := by
  unfold askForLease
  split
  · exact ⟨.refl hr, .refl⟩
  · rename_i c hc
    have hsession : m.client.map (·.session) = some c.session := by
      rw [hc]
      rfl
    have h1 : Errands P e (attempt P name (P.request c.session) e).2 :=
      errands_attempt name _ e fun _ _ hx => .request hx
    split <;> rename_i hx <;> rw [hx] at h1
    · exact ⟨⟨rfl, hsession.symm, rfl, rfl⟩, h1.trans (errands_becomeConnected _ _)⟩
    · exact ⟨⟨rfl, hsession.symm, rfl, hr⟩, h1.trans (errands_signal _ _ _)⟩

theorem runsErrands_extendLease (name : String) (mode : Renewal) (hr : m.status.isRunning = true) :
    RunsErrands P (m, e) (extendLease P name mode m e) := by
  unfold extendLease
  split
  · exact ⟨.refl hr, .refl⟩
  · rename_i c hc
    have hsession : m.client.map (·.session) = some c.session := by
      rw [hc]
      rfl
    have h1 : Errands P e (attempt P name (P.renew c.session mode) e).2 :=
      errands_attempt name _ e fun _ _ hx => .renew hx
    split <;> rename_i hx <;> rw [hx] at h1 <;> exact ⟨⟨rfl, hsession.symm, rfl, hr⟩, h1⟩

theorem runsErrands_startOver (name : String) : RunsErrands P (m, e) (startOver P name m e) := by
  have h1 : Errands P e (e.perform (P.setAddress name .unspecified)).2 := .single (.setAddress rfl)
  have hcleared : RunsErrands P (m, e)
      ({ m with address := .unspecified, client := m.client.map Client.forget, status := .connecting },
        (e.perform (P.setAddress name .unspecified)).2) := by
    refine ⟨⟨rfl, ?_, rfl, rfl⟩, h1⟩
    rw [Option.map_map]
    rfl
  have hask {m : ModeState} (hr : m.status.isRunning = true) {e e' : Env σ} (he : Errands P e e') :
      RunsErrands P (m, e) (askForLease P name m e') := by
    have hlit : RunsErrands P (m, e) (m, e') := ⟨.refl hr, he⟩
    exact hlit.trans (runsErrands_askForLease name hr)
  refine hcleared.trans (hask rfl ?_)
  split
  · exact ((errands_signal _ _ _).trans (errands_signal _ _ _)).trans (errands_signal _ _ _)
  · exact errands_signal _ _ _

theorem runsErrands_clientJoined (hr : m.status.isRunning = true) : RunsErrands P (m, e) (clientJoined m e) := by
  simp only [clientJoined]
  split
  · exact ⟨⟨rfl, rfl, rfl, rfl⟩, errands_signal _ _ _⟩
  · exact ⟨⟨rfl, rfl, rfl, hr⟩, .refl⟩

theorem runsErrands_clientLeft (hr : m.status.isRunning = true) : RunsErrands P (m, e) (clientLeft m e) := by
  simp only [clientLeft]
  split
  · exact ⟨.refl hr, .refl⟩
  · split
    · exact ⟨⟨rfl, rfl, rfl, rfl⟩, errands_signal _ _ _⟩
    · exact ⟨⟨rfl, rfl, rfl, hr⟩, .refl⟩

theorem runsErrands_tick (retry : Nat) (hr : m.status.isRunning = true) : RunsErrands P (m, e) (tick P retry m e) := by
  have hidle : RunsErrands P (m, e) (m, e) := ⟨.refl hr, .refl⟩
  unfold tick
  split
  · exact hidle
  · split
    · split
      · exact hidle
      · split
        · exact runsErrands_askForLease _ hr
        · exact hidle
      · split
        · exact runsErrands_extendLease _ _ hr
        · exact hidle
      · exact runsErrands_startOver _
    · exact hidle

theorem deeds_assignLease (name : String) (hm : m.mode = .normal) (hr : m.status.isRunning = true) :
    Deeds P (m, e) (assignLease P name m e) := by
  unfold assignLease
  split
  · split <;> rename_i hx
    · refine RunsErrands.deeds ⟨⟨rfl, rfl, rfl, rfl⟩, ?_⟩
      exact (Relation.ReflTransGen.single (.setMethod hx)).trans (errands_becomeConnected _ _)
    · refine RunsErrands.deeds ⟨.refl hr, ?_⟩
      exact (Relation.ReflTransGen.single (.setMethod hx)).trans (errands_signal _ _ _)
  · split
    · exact (runsErrands_askForLease name hr).deeds
    · rename_i hc
      simp only [openSession]
      cases hx : e.perform (P.mac name) with
      | mk answer e₁ =>
        have h1 : Errands P e e₁ := .single (.mac hx)
        cases answer with
        | error err => exact RunsErrands.deeds ⟨.refl hr, h1.trans (errands_signal _ _ _)⟩
        | ok mac =>
          simp only
          have hmac : Deeds P (m, e) (m, e₁) := .single (.errands (.refl hr) h1)
          cases hy : e₁.perform (P.openSession name mac) with
          | mk answer e₂ =>
            cases answer with
            | error err =>
              have h2 : Errands P e₁ e₂ := .single (.noSession hy)
              exact hmac.trans (RunsErrands.deeds ⟨.refl hr, h2.trans (errands_signal _ _ _)⟩)
            | ok id =>
              have hask : RunsErrands P ({ m with client := some { session := id } }, e₂) _ :=
                runsErrands_askForLease name hr
              exact (hmac.tail (.opened hm hc hy)).trans hask.deeds

theorem deeds_gainLink (hm : m.mode = .normal) (hr : m.status.isRunning = true) :
    Deeds P (m, e) (gainLink P m e) := by
  unfold gainLink
  split
  · exact .refl
  · split
    · exact (runsErrands_assignStatic _ hr).deeds
    · exact deeds_assignLease _ hm hr

theorem deeds_loseLink (hr : m.status.isRunning = true) : Deeds P (m, e) (loseLink P m e) := by
  -- A mode without a session, in the same surroundings.
  have hlost (m : ModeState) (hr : m.status.isRunning = true) (hc : m.client = none) (e : Env σ) :
      Deeds P (m, e) (loseLink P m e) := by
    refine RunsErrands.deeds ⟨⟨fixed_loseLink P m e, ?_, ?_, ?_⟩, ?_⟩
    · rw [loseLink_fst, hc]
    · rw [loseLink_fst]
    · rw [loseLink_fst]
      simp only
      split
      · rfl
      · exact hr
    · simp only [loseLink, hc]
      split
      · split
        · exact (errands_signal _ _ _).trans (errands_signal _ _ _)
        · exact .refl
      · exact .refl
  cases hc : m.client with
  | none => exact hlost m hr hc e
  | some c =>
    have h1 : Deeds P (m, e) ({ m with client := none }, hangUp P c.session e) := .single (.closed hc)
    have h2 : loseLink P m e = loseLink P { m with client := none } (hangUp P c.session e) := by
      simp only [loseLink, hc]
    rw [h2]
    exact h1.trans (hlost { m with client := none } hr rfl _)

theorem deeds_restart (hr : m.status.isRunning = true) : Deeds P (m, e) (restart P m e) := by
  unfold restart
  split
  · exact .refl
  · rename_i hname
    split
    · rename_i hx
      exact .single (.started hname hx)
    · rename_i err e' hx
      have hlight : Deed P (m, e') (m, e'.signal .errorHardware true) :=
        .errands (.refl hr) (errands_signal _ _ _)
      exact ((Relation.ReflTransGen.single (.started hname hx)).tail hlight).tail (.halted hname rfl)

theorem deeds_apReady (hm : m.mode = .accessPoint) (hr : m.status.isRunning = true) :
    Deeds P (m, e) (apReady P m e) := by
  unfold apReady
  split
  · exact .refl
  · split
    · exact .refl
    · rename_i name hname
      have h1 : Errands P e (setStatic P name m.parameters.accessPoint.ip (e.signal .apStarted true)).2 :=
        (errands_signal e _ _).trans (errands_setStatic name _ _)
      have hip : { m with ifUp := true, apStarted := true }.parameters = m.parameters := rfl
      simp only [hip]
      split <;> rename_i hx <;> rw [hx] at h1
      · exact RunsErrands.deeds ⟨⟨rfl, rfl, rfl, hr⟩, h1.trans (errands_signal _ _ _)⟩
      · rename_i address e'
        have h2 : Deeds P (m, e) ({ m with ifUp := true, apStarted := true, address }, e') :=
          RunsErrands.deeds ⟨⟨rfl, rfl, rfl, hr⟩, h1⟩
        simp only [startServer]
        cases hy : e'.perform (P.startServer name ⟨address.address, address.netmask⟩) with
        | mk answer e'' =>
          cases answer with
          | ok u => exact h2.tail (.served hm hname hy)
          | error err =>
            have h3 : Errands P e' e'' := .single (.noServer hy)
            exact h2.trans (RunsErrands.deeds ⟨.refl hr, h3.trans (errands_signal _ _ _)⟩)

/-- Without a session, and not connected, a mode has no link to lose. -/
theorem loseLink_ending (hs : m.status = .disconnecting) (hc : m.client = none) :
    loseLink P m e = ({ m with address := .unspecified }, e) := by
  simp only [loseLink, hc, hs]
  rw [if_neg (by decide), ← hc]

end Link

/-! ## Events -/

namespace Dispatch

variable {m : ModeState} {e : Env σ}

theorem deeds_bothUp (hm : m.mode = .normal) (hr : m.status.isRunning = true) :
    Deeds P (m, e) (bothUp P m e) := by
  unfold bothUp
  split
  · exact Link.deeds_gainLink hm hr
  · exact .refl

theorem deeds_ethernet (event : Event) (hm : m.mode = .normal) (hr : m.status.isRunning = true) :
    Deeds P (m, e) (ethernet P event m e) := by
  have hflags (ifUp linkUp : Bool) : Deeds P (m, e) ({ m with ifUp, linkUp }, e) :=
    RunsErrands.deeds ⟨⟨rfl, rfl, rfl, hr⟩, .refl⟩
  unfold ethernet
  split
  · exact (hflags true m.linkUp).trans (deeds_bothUp hm hr)
  · exact (hflags m.ifUp true).trans (deeds_bothUp hm hr)
  · exact (hflags false false).trans (Link.deeds_loseLink hr)
  · exact (hflags m.ifUp false).trans (Link.deeds_loseLink hr)
  · exact .refl

theorem deeds_station (event : Event) (hm : m.mode = .normal) (hr : m.status.isRunning = true) :
    Deeds P (m, e) (station P event m e) := by
  have hflags (ifUp linkUp : Bool) : Deeds P (m, e) ({ m with ifUp, linkUp }, e) :=
    RunsErrands.deeds ⟨⟨rfl, rfl, rfl, hr⟩, .refl⟩
  have hlost (ifUp linkUp : Bool) : Deeds P (m, e) (Link.loseLink P { m with ifUp, linkUp } e) :=
    (hflags ifUp linkUp).trans (Link.deeds_loseLink hr)
  have hagain (ifUp linkUp : Bool) : Deeds P (m, e)
      (Link.restart P (Link.loseLink P { m with ifUp, linkUp } e).1 (Link.loseLink P { m with ifUp, linkUp } e).2) :=
    (hlost ifUp linkUp).trans (Link.deeds_restart ((hlost ifUp linkUp).isRunning hr))
  unfold station
  split
  · simp only
    split
    · exact (hflags true true).trans (Link.deeds_gainLink hm hr)
    · exact hflags true true
  · simp only
    split
    · exact hagain m.ifUp false
    · exact hlost m.ifUp false
  · simp only
    split
    · rename_i hs
      rw [hs] at hr
      cases hr
    · exact hagain false false
  · exact hlost m.ifUp false
  · exact hlost m.ifUp false
  · exact .refl

theorem deeds_accessPoint (event : Event) (hm : m.mode = .accessPoint) (hr : m.status.isRunning = true) :
    Deeds P (m, e) (accessPoint P event m e) := by
  unfold accessPoint
  split
  · split
    · exact Link.deeds_apReady hm hr
    · exact .refl
  · exact (Link.runsErrands_clientJoined hr).deeds
  · exact (Link.runsErrands_clientLeft hr).deeds
  · exact .refl

theorem deeds_byKind (event : Event) (hr : m.status.isRunning = true) :
    Deeds P (m, e) (byKind P event m e) := by
  unfold byKind
  split
  · rename_i hm
    exact deeds_accessPoint event hm hr
  · rename_i hm _
    exact deeds_ethernet event hm hr
  · rename_i hm _
    exact deeds_station event hm hr
  · exact .refl

/-- A running mode's answer to any event. -/
theorem deeds_answer (retry : Nat) (event : Event) (hr : m.status.isRunning = true) :
    Deeds P (m, e) (answer P retry event m e) := by
  unfold answer
  split
  · exact (Link.runsErrands_tick retry hr).deeds
  · split
    · rename_i hs
      rw [hs] at hr
      cases hr
    · exact deeds_byKind _ hr
  · exact deeds_byKind _ hr

/-! ## Modes that are disconnecting -/

/-- The events that say that the interface of a mode is down. -/
def Ends (event : Event) (m : ModeState) : Prop :=
  event = .ifDown ∨ event = .stationStopped ∧ m.mode = .normal ∧ m.carrierKind? = some .wifi

/-- What an event makes of a mode that is disconnecting: flags and counts, and the end of it. -/
structure Fading (event : Event) (m m' : ModeState) : Prop where
  fixed : m'.fixed = m.fixed
  client : m'.client = none
  server : m'.serverRunning = m.serverRunning
  address : m'.address = m.address ∨ m'.address = .unspecified
  status : m'.status = .disconnecting ∨ m'.status = .disconnected ∧ Ends event m

theorem fading_ethernet (event : Event) (hs : m.status = .disconnecting) (hc : m.client = none) :
    Fading event m (ethernet P event m e).1 ∧ (ethernet P event m e).2 = e := by
  have hlost (ifUp linkUp : Bool) :
      Link.loseLink P { m with ifUp, linkUp } e = ({ m with ifUp, linkUp, address := .unspecified }, e) :=
    Link.loseLink_ending hs hc
  have hready (ifUp linkUp : Bool) : bothUp P { m with ifUp, linkUp } e = ({ m with ifUp, linkUp }, e) := by
    simp [bothUp, hs]
  unfold ethernet
  split
  · rw [hready true m.linkUp]
    exact ⟨⟨rfl, hc, rfl, .inl rfl, .inl hs⟩, rfl⟩
  · rw [hready m.ifUp true]
    exact ⟨⟨rfl, hc, rfl, .inl rfl, .inl hs⟩, rfl⟩
  · rw [hlost false false]
    exact ⟨⟨rfl, hc, rfl, .inr rfl, .inl hs⟩, rfl⟩
  · rw [hlost m.ifUp false]
    exact ⟨⟨rfl, hc, rfl, .inr rfl, .inl hs⟩, rfl⟩
  · exact ⟨⟨rfl, hc, rfl, .inl rfl, .inl hs⟩, rfl⟩

theorem fading_station (event : Event) (hs : m.status = .disconnecting) (hc : m.client = none)
    (hm : m.mode = .normal) (hk : m.carrierKind? = some .wifi) :
    Fading event m (station P event m e).1 ∧ (station P event m e).2 = e := by
  have hlost (linkUp : Bool) :
      Link.loseLink P { m with linkUp } e = ({ m with linkUp, address := .unspecified }, e) :=
    Link.loseLink_ending hs hc
  have hn : ¬ m.status = .connecting := by
    rw [hs]
    decide
  unfold station
  split
  · rw [if_neg hn]
    exact ⟨⟨rfl, hc, rfl, .inl rfl, .inl hs⟩, rfl⟩
  · simp only
    rw [if_neg hn, hlost]
    exact ⟨⟨rfl, hc, rfl, .inr rfl, .inl hs⟩, rfl⟩
  · rw [if_pos hs]
    exact ⟨⟨rfl, hc, rfl, .inl rfl, .inr ⟨rfl, .inr ⟨rfl, hm, hk⟩⟩⟩, rfl⟩
  · rw [hlost]
    exact ⟨⟨rfl, hc, rfl, .inr rfl, .inl hs⟩, rfl⟩
  · rw [hlost]
    exact ⟨⟨rfl, hc, rfl, .inr rfl, .inl hs⟩, rfl⟩
  · exact ⟨⟨rfl, hc, rfl, .inl rfl, .inl hs⟩, rfl⟩

theorem fading_accessPoint (event : Event) (hs : m.status = .disconnecting) (hc : m.client = none) :
    Fading event m (accessPoint P event m e).1 ∧ (accessPoint P event m e).2 = e := by
  unfold accessPoint
  split
  · rw [if_neg (by rw [hs]; decide)]
    exact ⟨⟨rfl, hc, rfl, .inl rfl, .inl hs⟩, rfl⟩
  · simp only [Link.clientJoined]
    rw [if_neg (by simp [hs])]
    exact ⟨⟨rfl, hc, rfl, .inl rfl, .inl hs⟩, rfl⟩
  · simp only [Link.clientLeft]
    split
    · exact ⟨⟨rfl, hc, rfl, .inl rfl, .inl hs⟩, rfl⟩
    · rw [if_neg (by simp [hs])]
      exact ⟨⟨rfl, hc, rfl, .inl rfl, .inl hs⟩, rfl⟩
  · exact ⟨⟨rfl, hc, rfl, .inl rfl, .inl hs⟩, rfl⟩

/-- A mode that is disconnecting does nothing about any event. -/
theorem answer_ending (retry : Nat) (event : Event) (hs : m.status = .disconnecting) (hc : m.client = none) :
    Fading event m (answer P retry event m e).1 ∧ (answer P retry event m e).2 = e := by
  have hkind (event : Event) :
      Fading event m (byKind P event m e).1 ∧ (byKind P event m e).2 = e := by
    unfold byKind
    split
    · exact fading_accessPoint event hs hc
    · exact fading_ethernet event hs hc
    · rename_i hm hk
      exact fading_station event hs hc hm hk
    · exact ⟨⟨rfl, hc, rfl, .inl rfl, .inl hs⟩, rfl⟩
  unfold answer
  split
  · unfold Link.tick
    rw [if_pos hs]
    exact ⟨⟨rfl, hc, rfl, .inl rfl, .inl hs⟩, rfl⟩
  · rw [if_pos hs]
    exact ⟨⟨rfl, hc, rfl, .inl rfl, .inr ⟨rfl, .inl rfl⟩⟩, rfl⟩
  · exact hkind _

end Dispatch

end Connectivity
