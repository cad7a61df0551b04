/-
  Connectivity.Proofs.LinkStates — what becomes of a mode's state, whatever the platform answers.
  An answered event keeps what a start has set up: the mode and its interfaces, the carrier, the
  parameters and the callback (`fixed_answer`). What moves make of the rest is said by one
  equation a move, where it does not hang on the platform.
-/

import Connectivity.Dispatch

namespace Connectivity

namespace ModeState

/-- What no event changes, with the rest blanked out. -/
def fixed (m : ModeState) : ModeState :=
  { m with
    status := .disconnected, address := .unspecified, clients := 0, ifUp := false, linkUp := false,
    client := none, serverRunning := false, apStarted := false }

theorem mode_of_fixed {m m' : ModeState} (h : m'.fixed = m.fixed) : m'.mode = m.mode :=
  show m'.fixed.mode = m.fixed.mode from congrArg _ h

theorem saved_of_fixed {m m' : ModeState} (h : m'.fixed = m.fixed) : m'.saved = m.saved :=
  show m'.fixed.saved = m.fixed.saved from congrArg _ h

theorem carrier_of_fixed {m m' : ModeState} (h : m'.fixed = m.fixed) : m'.carrier = m.carrier :=
  show m'.fixed.carrier = m.fixed.carrier from congrArg _ h

theorem carrierName?_of_fixed {m m' : ModeState} (h : m'.fixed = m.fixed) :
    m'.carrierName? = m.carrierName? := by
  rw [carrierName?, carrier_of_fixed h, carrierName?]

theorem carrierName?_of_carrier {m : ModeState} {c : Carrier} (h : m.carrier = some c) :
    m.carrierName? = some c.name := by
  rw [carrierName?, h]
  rfl

theorem told_of_fixed {m m' : ModeState} (h : m'.fixed = m.fixed) : m'.told = m.told :=
  show m'.fixed.told = m.fixed.told from congrArg _ h

theorem listening_of_fixed {m m' : ModeState} (h : m'.fixed = m.fixed) : m'.listening = m.listening :=
  show m'.fixed.listening = m.fixed.listening from congrArg _ h

theorem interface?_of_fixed {m m' : ModeState} (h : m'.fixed = m.fixed) (kind : InterfaceKind) :
    m'.interface? kind = m.interface? kind := by
  cases kind
  · exact show m'.fixed.wifi = m.fixed.wifi from congrArg _ h
  · exact show m'.fixed.ethernet = m.fixed.ethernet from congrArg _ h

end ModeState

namespace Link

variable {σ : Type} (P : Platform σ)

/-! ## States after a move -/

@[simp] theorem restart_fst (m : ModeState) (e : Env σ) : (restart P m e).1 = m := by
  unfold restart
  split
  · rfl
  · split <;> rfl

@[simp] theorem loseLink_fst (m : ModeState) (e : Env σ) :
    (loseLink P m e).1 =
      { m with
        client := none, address := .unspecified,
        status := if m.status = .connected then .connecting else m.status } := by
  unfold loseLink
  by_cases h : m.status = .connected
  · simp only [h, if_true]
    split <;> rfl
  · simp only [h, if_false]

/-- A connection that was torn down holds nothing, and has ended or is ending. -/
theorem tearDown_fst (carrier : Carrier) (m : ModeState) (e : Env σ) :
    ∃ down : Bool, (tearDown P carrier m e).1 =
      { m with
        serverRunning := false, client := none, address := .unspecified, clients := 0,
        apStarted := false, ifUp := !down && m.ifUp, linkUp := !down && m.linkUp,
        status := if down then .disconnected else .disconnecting } := by
  simp only [tearDown]
  generalize isDown P carrier.name _ = x
  obtain ⟨down, e'⟩ := x
  exact ⟨down, by cases down <;> rfl⟩

/-! ## What an event keeps -/

theorem fixed_assignStatic (name : String) (m : ModeState) (e : Env σ) :
    (assignStatic P name m e).1.fixed = m.fixed := by
  unfold assignStatic
  split <;> rfl

theorem fixed_askForLease (name : String) (m : ModeState) (e : Env σ) :
    (askForLease P name m e).1.fixed = m.fixed := by
  unfold askForLease
  split
  · rfl
  · split <;> rfl

theorem fixed_extendLease (name : String) (mode : Renewal) (m : ModeState) (e : Env σ) :
    (extendLease P name mode m e).1.fixed = m.fixed := by
  unfold extendLease
  split
  · rfl
  · split <;> rfl

theorem fixed_assignLease (name : String) (m : ModeState) (e : Env σ) :
    (assignLease P name m e).1.fixed = m.fixed := by
  unfold assignLease
  split
  · split <;> rfl
  · split
    · exact fixed_askForLease P name m e
    · split
      · rfl
      · exact fixed_askForLease P name _ _

theorem fixed_startOver (name : String) (m : ModeState) (e : Env σ) :
    (startOver P name m e).1.fixed = m.fixed :=
  fixed_askForLease P name _ _

theorem fixed_gainLink (m : ModeState) (e : Env σ) : (gainLink P m e).1.fixed = m.fixed := by
  unfold gainLink
  split
  · rfl
  · split
    · exact fixed_assignStatic P _ m e
    · exact fixed_assignLease P _ m e

theorem fixed_loseLink (m : ModeState) (e : Env σ) : (loseLink P m e).1.fixed = m.fixed := by
  rw [loseLink_fst]
  rfl

theorem fixed_tick (retry : Nat) (m : ModeState) (e : Env σ) : (tick P retry m e).1.fixed = m.fixed := by
  unfold tick
  split
  · rfl
  · split
    · split
      · rfl
      · split
        · exact fixed_askForLease P _ m e
        · rfl
      · split
        · exact fixed_extendLease P _ _ m e
        · rfl
      · exact fixed_startOver P _ m e
    · rfl

theorem fixed_apReady (m : ModeState) (e : Env σ) : (apReady P m e).1.fixed = m.fixed := by
  unfold apReady
  split
  · rfl
  · split
    · rfl
    · simp only
      split
      · rfl
      · split <;> rfl

theorem fixed_clientJoined (m : ModeState) (e : Env σ) : (clientJoined m e).1.fixed = m.fixed := by
  simp only [clientJoined]
  split <;> rfl

theorem fixed_clientLeft (m : ModeState) (e : Env σ) : (clientLeft m e).1.fixed = m.fixed := by
  simp only [clientLeft]
  split
  · rfl
  · split <;> rfl

theorem fixed_stop (m : ModeState) (e : Env σ) : (stop P m e).2.1.fixed = m.fixed := by
  have htear (c : Carrier) (e : Env σ) : (tearDown P c m e).1.fixed = m.fixed := by
    obtain ⟨down, h⟩ := tearDown_fst P c m e
    rw [h]
    rfl
  unfold stop
  split
  · rfl
  · split
    · exact htear _ _
    · split
      · exact htear _ _
      · rfl

theorem start_ok {kind : InterfaceKind} {p : Parameters} {m m' : ModeState} {e e' : Env σ}
    (h : start P kind p m e = (.ok (), m', e')) :
    ∃ i, m.interface? kind = some i ∧ m' = { m with carrier := some ⟨i.name, kind⟩ } := by
  unfold start at h
  split at h
  · cases h
  · rename_i i hi
    split at h
    · cases h
    · split at h
      · cases h
      · cases h
        exact ⟨i, hi, rfl⟩

theorem start_error {kind : InterfaceKind} {p : Parameters} {m m' : ModeState} {e e' : Env σ} {err : Error}
    (h : start P kind p m e = (.error err, m', e')) : m' = m := by
  unfold start at h
  split at h
  · cases h
    rfl
  · split at h
    · cases h
      rfl
    · split at h <;> cases h
      rfl

/-- A stop fails with the platform's stop of the carrier, and then changes only the lights. -/
theorem stop_error {m m' : ModeState} {e e' : Env σ} {err : Error} (h : stop P m e = (.error err, m', e')) :
    ∃ c, m.carrier = some c ∧ m' = m ∧
      e' = (e.perform (P.stop c.name)).2.signal .errorHardware true := by
  unfold stop at h
  split at h
  · cases h
  · rename_i c hc
    split at h
    · cases h
    · rename_i hx
      split at h
      · cases h
      · cases h
        refine ⟨c, hc, rfl, ?_⟩
        rw [hx]

/-- A stop that succeeds tears down what the mode's interface carried, once the platform has stopped
    it or says that it was not running. -/
theorem stop_ok {m m' : ModeState} {e e' : Env σ} (h : stop P m e = (.ok (), m', e')) :
    (m.carrier = none ∧ m' = { m with status := .disconnected } ∧ e' = e) ∨
    ∃ c answer e₁, m.carrier = some c ∧ e.perform (P.stop c.name) = (answer, e₁) ∧
      (∀ err, answer = .error err → err.isStopped = true) ∧ tearDown P c m e₁ = (m', e') := by
  unfold stop at h
  split at h
  · rename_i hc
    cases h
    exact .inl ⟨hc, rfl, rfl⟩
  · rename_i c hc
    split at h
    · rename_i hx
      cases h
      exact .inr ⟨c, _, _, hc, hx, (nomatch ·, ·), rfl⟩
    · rename_i err e₁ hx
      split at h
      · rename_i hs
        cases h
        refine .inr ⟨c, _, _, hc, hx, ?_, rfl⟩
        rintro _ ⟨⟩
        exact hs
      · cases h

/-- What a stop that succeeds leaves of a mode. -/
theorem stop_ok_fst {m m' : ModeState} {e e' : Env σ} (h : stop P m e = (.ok (), m', e')) :
    (m.carrier = none ∧ m' = { m with status := .disconnected }) ∨
    m'.client = none ∧ m'.serverRunning = false ∧ m'.address = .unspecified ∧
      (m'.status = .disconnecting ∨ m'.status = .disconnected) := by
  rcases stop_ok P h with ⟨hc, rfl, -⟩ | ⟨c, -, e₁, -, -, -, ht⟩
  · exact .inl ⟨hc, rfl⟩
  · obtain ⟨down, hdown⟩ := tearDown_fst P c m e₁
    obtain rfl : _ = m' := hdown.symm.trans (congrArg Prod.fst ht)
    refine .inr ⟨rfl, rfl, rfl, ?_⟩
    cases down with
    | false => exact .inl rfl
    | true => exact .inr rfl

end Link

namespace Dispatch

variable {σ : Type} (P : Platform σ)

theorem fixed_bothUp (m : ModeState) (e : Env σ) : (bothUp P m e).1.fixed = m.fixed := by
  unfold bothUp
  split
  · exact Link.fixed_gainLink P m e
  · rfl

theorem fixed_ethernet (event : Event) (m : ModeState) (e : Env σ) :
    (ethernet P event m e).1.fixed = m.fixed := by
  unfold ethernet
  split
  · exact fixed_bothUp P _ e
  · exact fixed_bothUp P _ e
  · exact Link.fixed_loseLink P _ e
  · exact Link.fixed_loseLink P _ e
  · rfl

theorem fixed_station (event : Event) (m : ModeState) (e : Env σ) :
    (station P event m e).1.fixed = m.fixed := by
  unfold station
  split
  · simp only
    split
    · exact Link.fixed_gainLink P _ e
    · rfl
  · simp only
    split
    · rw [Link.restart_fst]
      exact Link.fixed_loseLink P _ e
    · exact Link.fixed_loseLink P _ e
  · simp only
    split
    · rfl
    · rw [Link.restart_fst]
      exact Link.fixed_loseLink P _ e
  · exact Link.fixed_loseLink P _ e
  · exact Link.fixed_loseLink P _ e
  · rfl

theorem fixed_accessPoint (event : Event) (m : ModeState) (e : Env σ) :
    (accessPoint P event m e).1.fixed = m.fixed := by
  unfold accessPoint
  split
  · split
    · exact Link.fixed_apReady P m e
    · rfl
  · exact Link.fixed_clientJoined m e
  · exact Link.fixed_clientLeft m e
  · rfl

theorem fixed_byKind (event : Event) (m : ModeState) (e : Env σ) :
    (byKind P event m e).1.fixed = m.fixed := by
  unfold byKind
  split
  · exact fixed_accessPoint P event m e
  · exact fixed_ethernet P event m e
  · exact fixed_station P event m e
  · rfl

theorem fixed_answer (retry : Nat) (event : Event) (m : ModeState) (e : Env σ) :
    (answer P retry event m e).1.fixed = m.fixed := by
  unfold answer
  split
  · exact Link.fixed_tick P retry m e
  · split
    · rfl
    · exact fixed_byKind P _ m e
  · exact fixed_byKind P _ m e

end Dispatch

end Connectivity
