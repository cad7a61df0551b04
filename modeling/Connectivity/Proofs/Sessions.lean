/-
  Connectivity.Proofs.Sessions — DHCP sessions are used one at a time and never lost.
  - `Books`: how sessions may be used in turn. One is opened while none is open; it is asked for
    leases; then it is closed, or released and closed at once.
  - `Linear`: what follows if no session is opened twice. A session is released and closed at most
    once, nothing is done with it after it was closed and nothing asked after it was released.
  - `kept_answer`, `kept_stop`, …: every move of a link keeps the books, with the session that the
    mode holds as the open one.
  - `invariant_books`: so every run does, whatever the platform answers.
-/

import Connectivity.Proofs.CallLog
import Connectivity.Proofs.Consistency

namespace Connectivity

/-! ## Books -/

/-- Uses of sessions in an allowed order, the latest first, with the session that is open. -/
inductive Books : List Use → Option SessionId → Prop
  | empty : Books [] none
  | opened {uses : List Use} (id : SessionId) : Books uses none → Books (⟨.opened, id⟩ :: uses) (some id)
  | asked {uses : List Use} {id : SessionId} : Books uses (some id) → Books (⟨.asked, id⟩ :: uses) (some id)
  | closed {uses : List Use} {id : SessionId} : Books uses (some id) → Books (⟨.closed, id⟩ :: uses) none
  | surrendered {uses : List Use} {id : SessionId} :
      Books uses (some id) → Books (⟨.closed, id⟩ :: ⟨.released, id⟩ :: uses) none

/-- The sessions that were used in some way, the latest first. -/
def sessions (kind : UseKind) (uses : List Use) : List SessionId :=
  (uses.filter (fun u => u.kind = kind)).map (·.session)

theorem sessions_cons (kind : UseKind) (u : Use) (uses : List Use) :
    sessions kind (u :: uses) =
      if u.kind = kind then u.session :: sessions kind uses else sessions kind uses := by
  simp only [sessions, List.filter_cons, decide_eq_true_eq]
  split <;> rfl

theorem mem_sessions {kind : UseKind} {id : SessionId} {uses : List Use} :
    id ∈ sessions kind uses ↔ ⟨kind, id⟩ ∈ uses := by
  simp only [sessions, List.mem_map, List.mem_filter, decide_eq_true_eq]
  constructor
  · rintro ⟨u, ⟨hu, rfl⟩, rfl⟩
    exact hu
  · intro h
    exact ⟨⟨kind, id⟩, ⟨h, rfl⟩, rfl⟩

theorem count_sessions (kind : UseKind) (id : SessionId) (uses : List Use) :
    (sessions kind uses).count id = uses.count ⟨kind, id⟩ := by
  induction uses with
  | nil => rfl
  | cons u uses ih =>
    obtain ⟨kind', id'⟩ := u
    rw [sessions_cons, List.count_cons, ← ih]
    by_cases hk : kind' = kind
    · simp [hk, List.count_cons]
    · simp [hk]

namespace Books

variable {uses : List Use} {held : Option SessionId}

/-- The sessions opened are those closed, in the same order, with the open one ahead. -/
theorem opened_eq (h : Books uses held) :
    sessions .opened uses = held.toList ++ sessions .closed uses := by
  induction h with
  | empty => rfl
  | opened id _ ih => simpa [sessions_cons] using ih
  | asked _ ih => simpa [sessions_cons] using ih
  | closed _ ih => simpa [sessions_cons] using ih
  | surrendered _ ih => simpa [sessions_cons] using ih

/-- Whatever is released is closed. -/
theorem released_sublist (h : Books uses held) :
    List.Sublist (sessions .released uses) (sessions .closed uses) := by
  induction h with
  | empty => exact .slnil
  | opened _ _ ih => simpa [sessions_cons] using ih
  | asked _ ih => simpa [sessions_cons] using ih
  | closed _ ih => simpa [sessions_cons] using ih.cons _
  | surrendered _ ih => simpa [sessions_cons] using ih

variable (hf : (sessions .opened uses).Nodup)
include hf

theorem closed_nodup (h : Books uses held) : (sessions .closed uses).Nodup := by
  rw [h.opened_eq] at hf
  exact (List.nodup_append.mp hf).2.1

theorem held_not_closed {id : SessionId} (h : Books uses (some id)) : id ∉ sessions .closed uses := by
  rw [h.opened_eq] at hf
  exact (List.nodup_cons.mp hf).1

theorem held_not_released {id : SessionId} (h : Books uses (some id)) : id ∉ sessions .released uses :=
  fun hm => h.held_not_closed hf (h.released_sublist.subset hm)

/-- Nothing is done with a session after it was closed. -/
theorem pairwise_closed (h : Books uses held) :
    uses.Pairwise fun later earlier => earlier.kind = .closed → later.session ≠ earlier.session := by
  have fresh {uses : List Use} {id : SessionId} (hid : id ∉ sessions .closed uses) :
      ∀ u ∈ uses, u.kind = .closed → id ≠ u.session := by
    rintro ⟨_, id'⟩ hu rfl rfl
    exact hid (mem_sessions.mpr hu)
  induction h with
  | empty => exact .nil
  | @opened uses id h ih =>
    rw [sessions_cons, if_pos rfl, List.nodup_cons] at hf
    refine .cons (fresh fun hm => hf.1 ?_) (ih hf.2)
    rw [h.opened_eq]
    exact hm
  | @asked uses id h ih =>
    have hf : (sessions .opened uses).Nodup := by simpa [sessions_cons] using hf
    exact .cons (fresh (h.held_not_closed hf)) (ih hf)
  | @closed uses id h ih =>
    have hf : (sessions .opened uses).Nodup := by simpa [sessions_cons] using hf
    exact .cons (fresh (h.held_not_closed hf)) (ih hf)
  | @surrendered uses id h ih =>
    have hf : (sessions .opened uses).Nodup := by simpa [sessions_cons] using hf
    have hid := fresh (h.held_not_closed hf)
    refine .cons (fun u hu => ?_) (.cons hid (ih hf))
    rcases List.mem_cons.mp hu with rfl | hu
    · intro hk
      cases hk
    · exact hid u hu

/-- No lease is asked for in a session after it was released. -/
theorem pairwise_released (h : Books uses held) :
    uses.Pairwise fun later earlier =>
      earlier.kind = .released → later.kind = .asked → later.session ≠ earlier.session := by
  have other {uses : List Use} {u : Use} (hu : u.kind ≠ .asked) :
      ∀ v ∈ uses, v.kind = .released → u.kind = .asked → u.session ≠ v.session :=
    fun _ _ _ ha => absurd ha hu
  induction h with
  | empty => exact .nil
  | opened id h ih =>
    rw [sessions_cons, if_pos rfl, List.nodup_cons] at hf
    exact .cons (other (by simp)) (ih hf.2)
  | @asked uses id h ih =>
    have hf : (sessions .opened uses).Nodup := by simpa [sessions_cons] using hf
    refine .cons ?_ (ih hf)
    rintro ⟨_, id'⟩ hv rfl _ rfl
    exact h.held_not_released hf (mem_sessions.mpr hv)
  | @closed uses id h ih =>
    have hf : (sessions .opened uses).Nodup := by simpa [sessions_cons] using hf
    exact .cons (other (by simp)) (ih hf)
  | @surrendered uses id h ih =>
    have hf : (sessions .opened uses).Nodup := by simpa [sessions_cons] using hf
    exact .cons (other (by simp)) (.cons (other (by simp)) (ih hf))

end Books

/-- Sessions used one at a time: what was done with them, and the one that is held. -/
structure Linear (uses : List Use) (held : Option SessionId) : Prop where
  releasedOnce : ∀ id, uses.count ⟨.released, id⟩ ≤ 1
  closedOnce : ∀ id, uses.count ⟨.closed, id⟩ ≤ 1
  afterClose : uses.Pairwise fun later earlier => earlier.kind = .closed → later.session ≠ earlier.session
  afterRelease : uses.Pairwise fun later earlier =>
    earlier.kind = .released → later.kind = .asked → later.session ≠ earlier.session
  /-- What was opened and not closed is what is held. -/
  outstanding : ∀ id, ⟨.opened, id⟩ ∈ uses ∧ ⟨.closed, id⟩ ∉ uses ↔ held = some id

theorem Books.linear {uses : List Use} {held : Option SessionId} (h : Books uses held)
    (hf : (sessions .opened uses).Nodup) : Linear uses held := by
  have hclosed := h.closed_nodup hf
  refine ⟨fun id => ?_, fun id => ?_, h.pairwise_closed hf, h.pairwise_released hf, fun id => ?_⟩
  · rw [← count_sessions]
    exact List.nodup_iff_count.mp (h.released_sublist.nodup hclosed) id
  · rw [← count_sessions]
    exact List.nodup_iff_count.mp hclosed id
  · rw [← mem_sessions, ← mem_sessions, h.opened_eq, List.mem_append]
    constructor
    · rintro ⟨ho | hc, hn⟩
      · exact Option.mem_toList.mp ho
      · exact absurd hc hn
    · rintro rfl
      exact ⟨.inl (Option.mem_toList.mpr rfl), h.held_not_closed hf⟩

/-- With no session held, whatever was opened was closed exactly once. -/
theorem Linear.closed_once {uses : List Use} (h : Linear uses none) {id : SessionId}
    (ho : ⟨.opened, id⟩ ∈ uses) : uses.count ⟨.closed, id⟩ = 1 := by
  have hc : ⟨.closed, id⟩ ∈ uses := by
    by_cases hc : ⟨.closed, id⟩ ∈ uses
    · exact hc
    · cases (h.outstanding id).mp ⟨ho, hc⟩
  have h1 := h.closedOnce id
  have h2 := List.count_pos_iff.mpr hc
  omega

/-! ## Moves that use no session -/

section
variable {σ : Type} (P : Platform σ) (m : ModeState) (e : Env (Recorded σ))

namespace Link

theorem uses_bringUp (name : String) (setup : InterfaceSetup) :
    (bringUp P.recorded name setup e).2.uses = e.uses := by
  unfold bringUp
  split
  · rename_i hx
    exact Env.uses_of_perform hx
  · rename_i e' hx
    have h1 : e'.uses = e.uses := Env.uses_of_perform hx
    exact (Env.uses_perform e' _ (P.start name)).trans h1

theorem uses_start (kind : InterfaceKind) (p : Parameters) :
    (start P.recorded kind p m e).2.2.uses = e.uses := by
  unfold start
  split
  · rfl
  · split
    · rfl
    · rename_i i _ _ setup _
      have h1 := uses_bringUp P e i.name setup
      split <;> rename_i hx <;> rw [hx] at h1 <;> exact h1

theorem uses_of_start {kind : InterfaceKind} {p : Parameters} {m m' : ModeState} {e e' : Env (Recorded σ)}
    {result : Except Error Unit} (h : start P.recorded kind p m e = (result, m', e')) : e'.uses = e.uses := by
  have he := uses_start P m e kind p
  rw [h] at he
  exact he

theorem uses_isDown (name : String) : (isDown P.recorded name e).2.uses = e.uses := by
  unfold isDown
  split <;> rename_i hx <;> exact Env.uses_of_perform hx

theorem uses_restart : (restart P.recorded m e).2.uses = e.uses := by
  unfold restart
  split
  · rfl
  · rename_i name _
    split
    · rename_i hx
      exact Env.uses_of_perform hx
    · rename_i e' hx
      have h1 : e'.uses = e.uses := Env.uses_of_perform hx
      exact (Env.uses_perform (e'.signal .errorHardware true) _ (P.stop name)).trans h1

@[simp] theorem uses_becomeConnected : (becomeConnected m e).2.uses = e.uses := by
  unfold becomeConnected
  split <;> rfl

theorem uses_setStatic (name : String) (texts : AddressTexts) :
    (setStatic P.recorded name texts e).2.uses = e.uses := by
  unfold setStatic
  split
  · rfl
  · split
    · rename_i hx
      exact Env.uses_of_perform hx
    · rename_i e' hx
      have h1 : e'.uses = e.uses := Env.uses_of_perform hx
      split <;> rename_i hy <;> exact (Env.uses_of_perform hy).trans h1

theorem uses_startServer (name : String) (setup : ServerSetup) :
    (startServer P.recorded name setup e).2.uses = e.uses := by
  unfold startServer
  split <;> rename_i hx <;> exact Env.uses_of_perform hx

theorem uses_apReady : (apReady P.recorded m e).2.uses = e.uses := by
  unfold apReady
  split
  · rfl
  · split
    · rfl
    · rename_i name _
      simp only
      split
      · rename_i hx
        have h1 := uses_setStatic P (e.signal .apStarted true) name m.parameters.accessPoint.ip
        exact (congrArg (·.2.uses) hx).symm.trans h1
      · rename_i address e' hx
        have h1 := uses_setStatic P (e.signal .apStarted true) name m.parameters.accessPoint.ip
        have h2 : e'.uses = e.uses := (congrArg (·.2.uses) hx).symm.trans h1
        have h3 := uses_startServer P e' name ⟨address.address, address.netmask⟩
        split <;> rename_i hy <;> rw [hy] at h3 <;> exact h3.trans h2

theorem uses_clientJoined : (clientJoined m e).2.uses = e.uses := by
  simp only [clientJoined]
  split <;> rfl

theorem uses_clientLeft : (clientLeft m e).2.uses = e.uses := by
  simp only [clientLeft]
  split
  · rfl
  · split <;> rfl

end Link

end

/-! ## Moves with a session -/

def ModeState.session? (m : ModeState) : Option SessionId := m.client.map (·.session)

section
variable {σ : Type} (P : Platform σ)

/-- The books are in order, with the session that the mode holds as the open one. -/
def Kept (x : ModeState × Env (Recorded σ)) : Prop := Books x.2.uses x.1.session?

variable {m : ModeState} {e : Env (Recorded σ)}

theorem Kept.of_uses {x y : ModeState × Env (Recorded σ)} (h : Kept x) (hu : y.2.uses = x.2.uses)
    (hs : y.1.session? = x.1.session?) : Kept y := by
  unfold Kept
  rw [hu, hs]
  exact h

theorem Kept.some {c : Client} (h : Kept (m, e)) (hc : m.client = some c) : Books e.uses (some c.session) := by
  simpa [Kept, ModeState.session?, hc] using h

theorem Kept.none (h : Kept (m, e)) (hc : m.client = none) : Books e.uses none := by
  simpa [Kept, ModeState.session?, hc] using h

namespace Link

/-- A teardown surrenders the session that is held, and does nothing else with sessions. -/
theorem uses_tearDown (carrier : Carrier) (m : ModeState) (e : Env (Recorded σ)) :
    (tearDown P.recorded carrier m e).2.uses =
      match m.client with
      | some c => ⟨.closed, c.session⟩ :: ⟨.released, c.session⟩ :: e.uses
      | none => e.uses := by
  have hserver : (if m.serverRunning then (e.perform (P.recorded.stopServer carrier.name)).2 else e).uses =
      e.uses := by
    split
    · exact Env.uses_perform e _ (P.stopServer carrier.name)
    · rfl
  simp only [tearDown, Env.uses_signal, uses_isDown]
  cases m.client with
  | none => exact hserver
  | some c => exact congrArg (_ :: _ :: ·) hserver

theorem kept_tearDown (carrier : Carrier) (h : Kept (m, e)) : Kept (tearDown P.recorded carrier m e) := by
  obtain ⟨down, ht⟩ := tearDown_fst P.recorded carrier m e
  unfold Kept
  rw [ht, uses_tearDown]
  split
  · rename_i c hc
    exact .surrendered (h.some hc)
  · rename_i hc
    exact h.none hc

theorem uses_stop (hc : m.client = none) : (stop P.recorded m e).2.2.uses = e.uses := by
  have htear (carrier : Carrier) (e' : Env (Recorded σ)) :
      (tearDown P.recorded carrier m e').2.uses = e'.uses := by
    rw [uses_tearDown, hc]
  unfold stop
  split
  · rfl
  · split
    · rename_i hx
      exact (htear _ _).trans (Env.uses_of_perform hx)
    · rename_i hx
      split
      · exact (htear _ _).trans (Env.uses_of_perform hx)
      · exact Env.uses_of_perform hx

theorem kept_stop (h : Kept (m, e)) : Kept (stop P.recorded m e).2 := by
  unfold stop
  split
  · exact h
  · rename_i carrier _
    split
    · rename_i hx
      exact kept_tearDown P carrier (h.of_uses (Env.uses_of_perform hx) rfl)
    · rename_i hx
      split
      · exact kept_tearDown P carrier (h.of_uses (Env.uses_of_perform hx) rfl)
      · exact h.of_uses (Env.uses_of_perform hx) rfl

theorem kept_assignStatic (name : String) (h : Kept (m, e)) : Kept (assignStatic P.recorded name m e) := by
  have h1 := uses_setStatic P e name m.parameters.normal.ip
  unfold assignStatic
  split <;> rename_i hx <;> rw [hx] at h1
  · exact h.of_uses ((uses_becomeConnected _ _).trans h1) rfl
  · exact h.of_uses h1 rfl

/-- An attempt uses the session that it is made in, and no other. -/
theorem uses_attempt (name : String) (ask : Action (Recorded σ) Grant) (e : Env (Recorded σ)) :
    (attempt P.recorded name ask e).2.uses = (e.perform ask).2.uses := by
  unfold attempt
  generalize e.perform ask = x
  obtain ⟨_ | g, e'⟩ := x
  · rfl
  · simp only
    split
    · rfl
    · split <;> rename_i hx <;> exact Env.uses_of_perform hx

theorem kept_askForLease (name : String) (h : Kept (m, e)) : Kept (askForLease P.recorded name m e) := by
  unfold askForLease
  split
  · exact h
  · rename_i c hc
    have h1 : Books (attempt P.recorded name (P.recorded.request c.session) e).2.uses (some c.session) := by
      rw [uses_attempt]
      exact .asked (h.some hc)
    split <;> rename_i hx <;> rw [hx] at h1
    · unfold Kept
      rw [uses_becomeConnected]
      exact h1
    · exact h1

theorem kept_extendLease (name : String) (mode : Renewal) (h : Kept (m, e)) :
    Kept (extendLease P.recorded name mode m e) := by
  unfold extendLease
  split
  · exact h
  · rename_i c hc
    have h1 : Books (attempt P.recorded name (P.recorded.renew c.session mode) e).2.uses
        (some c.session) := by
      rw [uses_attempt]
      exact .asked (h.some hc)
    split <;> rename_i hx <;> rw [hx] at h1 <;> exact h1

theorem books_openSession (name : String) (h : Books e.uses none) :
    Books (openSession P.recorded name e).2.uses (openSession P.recorded name e).1.toOption := by
  unfold openSession
  split
  · rename_i hx
    have h1 := Env.uses_of_perform hx
    simp only
    rw [h1]
    exact h
  · rename_i mac e' hx
    have h1 : e'.uses = e.uses := Env.uses_of_perform hx
    generalize hy : e'.perform (P.recorded.openSession name mac) = y
    obtain ⟨_ | id, e''⟩ := y
    · have h2 : e''.uses = e'.uses := Env.uses_of_perform hy
      rw [h2, h1]
      exact h
    · have h2 : e''.uses = ⟨.opened, id⟩ :: e'.uses := Env.uses_of_perform hy
      rw [h2, h1]
      exact .opened id h

theorem kept_assignLease (name : String) (h : Kept (m, e)) : Kept (assignLease P.recorded name m e) := by
  unfold assignLease
  split
  · split
    · rename_i hx
      exact h.of_uses ((uses_becomeConnected _ _).trans (Env.uses_of_perform hx)) rfl
    · rename_i hx
      exact h.of_uses (Env.uses_of_perform hx) rfl
  · split
    · exact kept_askForLease P name h
    · rename_i hc
      have h1 := books_openSession P name (h.none hc)
      split <;> rename_i hx <;> rw [hx] at h1
      · unfold Kept
        rw [ModeState.session?, hc]
        exact h1
      · exact kept_askForLease P name h1

theorem kept_startOver (name : String) (h : Kept (m, e)) : Kept (startOver P.recorded name m e) := by
  refine kept_askForLease P name (h.of_uses ?_ ?_)
  · have h1 : (e.perform (P.recorded.setAddress name .unspecified)).2.uses = e.uses :=
      Env.uses_perform e _ (P.setAddress name .unspecified)
    simp only
    split <;> exact h1
  · simp only [ModeState.session?, Option.map_map]
    rfl

theorem kept_gainLink (h : Kept (m, e)) : Kept (gainLink P.recorded m e) := by
  unfold gainLink
  split
  · exact h
  · split
    · exact kept_assignStatic P _ h
    · exact kept_assignLease P _ h

theorem kept_loseLink (h : Kept (m, e)) : Kept (loseLink P.recorded m e) := by
  have h1 : Books (match m.client with
      | some c => hangUp P.recorded c.session e
      | none => e).uses none := by
    split
    · rename_i c hc
      exact .closed (h.some hc)
    · rename_i hc
      exact h.none hc
  unfold loseLink
  simp only
  split
  · split <;> exact h1
  · exact h1

theorem kept_tick (retry : Nat) (h : Kept (m, e)) : Kept (tick P.recorded retry m e) := by
  unfold tick
  split
  · exact h
  · split
    · split
      · exact h
      · split
        · exact kept_askForLease P _ h
        · exact h
      · split
        · exact kept_extendLease P _ _ h
        · exact h
      · exact kept_startOver P _ h
    · exact h

end Link

/-! ## Events -/

namespace Dispatch

theorem kept_bothUp (h : Kept (m, e)) : Kept (bothUp P.recorded m e) := by
  unfold bothUp
  split
  · exact Link.kept_gainLink P h
  · exact h

theorem kept_ethernet (event : Event) (h : Kept (m, e)) : Kept (ethernet P.recorded event m e) := by
  unfold ethernet
  split
  · exact kept_bothUp P h
  · exact kept_bothUp P h
  · exact Link.kept_loseLink P h
  · exact Link.kept_loseLink P h
  · exact h

theorem kept_restart (h : Kept (m, e)) : Kept (Link.restart P.recorded m e) := by
  refine h.of_uses (Link.uses_restart P m e) ?_
  rw [Link.restart_fst]

theorem kept_station (event : Event) (h : Kept (m, e)) : Kept (station P.recorded event m e) := by
  unfold station
  split
  · simp only
    split
    · exact Link.kept_gainLink P h
    · exact h
  · simp only
    split
    · exact kept_restart P (Link.kept_loseLink P h)
    · exact Link.kept_loseLink P h
  · simp only
    split
    · exact h
    · exact kept_restart P (Link.kept_loseLink P h)
  · exact Link.kept_loseLink P h
  · exact Link.kept_loseLink P h
  · exact h

theorem kept_answer (retry : Nat) (event : Event) (h : Kept (m, e)) (hm : m.mode = .normal) :
    Kept (answer P.recorded retry event m e) := by
  have hkind (event : Event) : Kept (byKind P.recorded event m e) := by
    unfold byKind
    rw [hm]
    cases m.carrierKind? with
    | none => exact h
    | some kind =>
      cases kind with
      | ethernet => exact kept_ethernet P event h
      | wifi => exact kept_station P event h
  unfold answer
  split
  · exact Link.kept_tick P retry h
  · split
    · exact h
    · exact hkind _
  · exact hkind _

theorem uses_accessPoint (event : Event) (m : ModeState) (e : Env (Recorded σ)) :
    (accessPoint P.recorded event m e).2.uses = e.uses := by
  unfold accessPoint
  split
  · split
    · exact Link.uses_apReady P m e
    · rfl
  · exact Link.uses_clientJoined m e
  · exact Link.uses_clientLeft m e
  · rfl

/-- An access point does nothing with sessions. -/
theorem uses_answer (retry : Nat) (event : Event) (hm : m.mode = .accessPoint) (hc : m.client = none) :
    (answer P.recorded retry event m e).2.uses = e.uses := by
  have hkind (event : Event) : (byKind P.recorded event m e).2.uses = e.uses := by
    unfold byKind
    rw [hm]
    exact uses_accessPoint P event m e
  unfold answer
  split
  · unfold Link.tick
    rw [hc]
    split <;> rfl
  · split
    · rfl
    · exact hkind _
  · exact hkind _

end Dispatch

end

/-! ## Runs -/

namespace ControlPlane

variable {σ τ : Type} {M : ControlPlane σ τ} {cap : Bool} {x y : ModeState × Env (Recorded σ)}

/-- Every turn of the normal mode keeps the books. -/
theorem Turn.kept (h : M.recorded.Turn cap x y) (hm : x.1.mode = .normal) (hx : x.1.Consistent none)
    (hk : Kept x) : Kept y := by
  have idle {m : ModeState} {e : Env (Recorded σ)} (hd : m.status = .disconnected)
      (hx : m.Consistent none) (hk : Kept (m, e)) {m' : ModeState} (hs : m'.client = none) {e' : Env (Recorded σ)}
      (he : e'.uses = e.uses) : Kept (m', e') := by
    have hc : m.client = none := hx.no_client (by rw [hd]; rfl)
    exact hk.of_uses he (by simp only [ModeState.session?, hc, hs])
  cases h with
  | listening => exact hk
  | answered name event =>
    rw [ModeState.refresh_snd]
    exact Dispatch.kept_answer M.platform _ event hk hm
  | gaveBack name _ hc => exact .surrendered (hk.some hc)
  | notStarted hd hs =>
    refine idle hd hx hk ?_ (Link.uses_of_start M.platform hs)
    rw [Link.start_error _ hs]
    rfl
  | started hd _ hs =>
    refine idle hd hx hk ?_ (Link.uses_of_start M.platform hs)
    obtain ⟨i, -, rfl⟩ := Link.start_ok _ hs
    rw [ModeState.refresh_snd]
    rfl
  | stopped =>
    rw [ModeState.refresh_snd]
    exact Link.kept_stop M.platform hk

/-- No turn of the access point does anything with sessions. -/
theorem Turn.uses (h : M.recorded.Turn cap x y) (hm : x.1.mode = .accessPoint) (hc : x.1.client = none) :
    y.2.uses = x.2.uses := by
  cases h with
  | listening => rfl
  | answered name event => exact Dispatch.uses_answer M.platform _ event hm hc
  | gaveBack name _ hs =>
    rw [show _ = none from hc] at hs
    cases hs
  | notStarted _ hs => exact Link.uses_of_start M.platform hs
  | started _ _ hs => exact Link.uses_of_start M.platform hs
  | stopped => exact Link.uses_stop M.platform hc

theorem Asked.uses {e e' : Env (Recorded σ)} (h : Asked M.recorded.platform e e') : e'.uses = e.uses := by
  cases h with
  | signal => rfl
  | interfaces => exact Env.uses_perform e _ M.platform.interfaces
  | subscribe name => exact Env.uses_perform e _ (M.platform.subscribe name)
  | unsubscribe name => exact Env.uses_perform e _ (M.platform.unsubscribe name)
  | status name => exact Env.uses_perform e _ (M.platform.status name)
  | netstat name => exact Env.uses_perform e _ (M.platform.netstat name)
  | announceStop name => exact Env.uses_perform e _ (M.platform.announceStop name)

variable (M) in
/-- Moves between a set-up and the dissolution that ends it. What happens outside makes no calls. -/
def Lifetime (s : State (Recorded σ) τ) : Move (Recorded σ) τ → Prop
  | .dissolve => (M.recorded.dissolve s).1 ≠ .ok ()
  | .outside platform _ _ => (platform s.env.platform).calls = s.env.platform.calls
  | _ => True

/-- The session that the normal mode holds. -/
def held? (modes : Option Modes) : Option SessionId := modes.bind (·.normal.session?)

theorem books_change {v v' : Option Modes × Env (Recorded σ)} (h : M.recorded.Change cap v v')
    (hl : ∀ r, v.1 = some r → r.Labelled) (hc : ∀ r, v.1 = some r → r.Consistent none)
    (hb : Books v.2.uses (held? v.1)) : Books v'.2.uses (held? v'.1) := by
  cases h with
  | @turn r e x mode ht =>
    cases mode with
    | normal =>
      have hk : Kept x := ht.kept (hl r rfl .normal) (hc r rfl).normal hb
      exact hk
    | accessPoint =>
      have hu : x.2.uses = e.uses := ht.uses (hl r rfl .accessPoint) (hc r rfl).accessPoint
      simp only [hu]
      exact hb
  | asked ha =>
    simp only [ha.uses]
    exact hb
  | fresh hi =>
    unfold Modes.ofInterfaces? at hi
    simp only at hi
    split at hi
    · cases hi
    · cases hi
      exact hb

theorem invariant_books : M.recorded.Invariant M.Lifetime
    (fun v => (∀ r, v.1 = some r → r.Consistent none) ∧ Books v.2.uses (held? v.1)) where
  change hok h hl hv :=
    ⟨(invariant_consistent (fun _ _ _ _ hn => by cases hn)).change hok h hl hv.1,
      books_change h hl hv.1 hv.2⟩
  outside {s platform store now} hok hv := by
    have hu : (M.recorded.step (.outside platform store now) s).env.uses = s.env.uses :=
      congrArg (List.filterMap PlatformCall.use?) hok
    refine ⟨hv.1, ?_⟩
    simp only [State.view, hu]
    exact hv.2
  gone hok ha _ := absurd ha hok

/-- Whatever is called, whatever events arrive and whatever the platform answers, as long as no
    session is opened twice: from one set-up on, sessions are used one at a time, the normal mode
    holds the one that is open, and when it is not running every one was closed. -/
theorem reach_linear {s₀ s : State (Recorded σ) τ} (hs : s₀.roster.modes = none) (hc : s₀.env.calls = [])
    (h : M.recorded.Reach M.Lifetime s₀ s) (hf : (sessions .opened s.env.uses).Nodup) :
    Linear s.env.uses (held? s.roster.modes) ∧
      ∀ r, s.roster.modes = some r → r.normal.status = .disconnected ∨ r.normal.status = .disconnecting →
        ∀ id, ⟨.opened, id⟩ ∈ s.env.uses → s.env.uses.count ⟨.closed, id⟩ = 1 := by
  have hl : ∀ r, s₀.roster.modes = some r → r.Labelled := by simp [hs]
  have h₀ : Books s₀.env.uses (held? s₀.roster.modes) := by
    simp only [Env.uses, hc, hs]
    exact .empty
  obtain ⟨⟨hcons, hb⟩, -⟩ := h.holds invariant_books hl ⟨by simp [State.view, hs], h₀⟩
  have hlin := Books.linear hb hf
  refine ⟨hlin, fun r hr hd id ho => ?_⟩
  have hn : r.normal.client = none := by
    refine (hcons r hr).normal.no_client ?_
    rcases hd with hd | hd <;> rw [hd] <;> rfl
  have hheld : held? s.roster.modes = none := by
    rw [hr]
    simp [held?, ModeState.session?, hn]
  rw [State.view, hheld] at hlin
  exact hlin.closed_once ho

end ControlPlane

namespace Camera

open Simulation ControlPlane

/-- The link is lost with a lease and comes back, and the connection is stopped. -/
def rejoin {σ τ : Type} : List (Move σ τ) :=
  join ++ [.event "wlan0" .linkDown, .event "wlan0" .stationConnected, .stop normal]

theorem rejoin_linear :
    let s := plane.recorded.run rejoin recording
    sessions .opened s.env.uses = [⟨2⟩, ⟨1⟩] ∧
      (s.mode? .normal).map (·.status) = some .disconnected ∧
      Linear s.env.uses (held? s.roster.modes) ∧
      ∀ r, s.roster.modes = some r → r.normal.status = .disconnected ∨ r.normal.status = .disconnecting →
        ∀ id, ⟨.opened, id⟩ ∈ s.env.uses → s.env.uses.count ⟨.closed, id⟩ = 1 := by
  intro s
  have hopened : sessions .opened s.env.uses = [⟨2⟩, ⟨1⟩] := by decide +kernel
  have hreach : plane.recorded.Reach plane.Lifetime recording s :=
    reach_run ⟨trivial, trivial, trivial, trivial, trivial, trivial, trivial, trivial, trivial⟩
  refine ⟨hopened, by decide +kernel, reach_linear rfl rfl hreach ?_⟩
  rw [hopened]
  decide

end Camera

end Connectivity
