/-
  Connectivity.Proofs.Notices — a callback hears of every change, and of nothing else.
  - `Notified`: statuses that were told one after the other, each other than the one before it.
  - `Reported`: from one state to another, the notices are those of the changes. A mode's state that is
    stored and told of is (`reported_update`, `reported_tell`), and so are events, starts and stops, which
    come to nothing else.
  - `notices_calm`: no other move hands out a notice.
  - `reach_notified`: so from its registration on a callback is told what it has to be told.
-/

import Mathlib.Data.List.Chain
import Connectivity.Proofs.Quiet

namespace Connectivity

/-! ## Statuses that are told -/

/-- From what was told before to what is told now, statuses were told, the latest first, each other than
    the one before it. -/
inductive Notified (before : Standing) : List Standing → Standing → Prop
  | none : Notified before [] before
  | tell {told status : Standing} {news : List Standing} :
      Notified before news told → status ≠ told → Notified before (status :: news) status

namespace Notified

variable {before told now : Standing} {news news' : List Standing}

theorem trans (h : Notified before news told) (h' : Notified told news' now) :
    Notified before (news' ++ news) now := by
  induction h' with
  | none => exact h
  | tell _ hne ih => exact .tell ih hne

/-- In their order, after what was told before, no two neighbours are the same. -/
theorem isChain (h : Notified before news now) :
    (before :: news.reverse).IsChain (· ≠ ·) ∧ (before :: news.reverse).getLast? = some now := by
  induction h with
  | none => exact ⟨List.isChain_singleton _, rfl⟩
  | @tell told status news _ hne ih =>
    obtain ⟨hchain, hlast⟩ := ih
    -- The latest status comes last, after one that it differs from.
    have hsplit : before :: (status :: news).reverse = before :: news.reverse ++ [status] := by simp
    rw [hsplit, List.isChain_append, hlast, List.getLast?_concat]
    refine ⟨⟨hchain, List.isChain_singleton _, ?_⟩, rfl⟩
    rintro x hx y hy
    cases hx
    cases hy
    exact hne.symm

end Notified

/-- As a mode's state went from `m` to `m'`, its callback was told `news`, the latest first. -/
structure ModeState.Tells (m : ModeState) (news : List Standing) (m' : ModeState) : Prop where
  listening : m'.listening = m.listening
  notified : m.listening = true → Notified m.told news m'.told

namespace ModeState

variable {m m' m'' : ModeState} {news news' : List Standing}

theorem Tells.of_eq (hl : m'.listening = m.listening) (ht : m'.told = m.told) : m.Tells [] m' where
  listening := hl
  notified _ := ht ▸ .none

theorem Tells.trans (h : m.Tells news m') (h' : m'.Tells news' m'') : m.Tells (news' ++ news) m'' where
  listening := h'.listening.trans h.listening
  notified hon := (h.notified hon).trans (h'.notified (h.listening.trans hon))

theorem Tells.of_fixed (h : m'.fixed = m.fixed) : m.Tells [] m' :=
  .of_eq (listening_of_fixed h) (told_of_fixed h)

theorem tells_refresh (m : ModeState) : m.Tells m.refresh.1.toList m.refresh.2 := by
  refine ⟨by rw [refresh_snd], fun hon => ?_⟩
  rw [refresh_snd]
  unfold refresh
  by_cases h : m.standing = m.told
  · rw [if_pos h, h]
    exact .none
  · rw [if_neg h, hon]
    exact .tell .none h

end ModeState

namespace ControlPlane

variable {σ τ α : Type} {M : ControlPlane σ τ} {s s' s'' : State σ τ} {r : Modes}

/-! ## States -/

/-- What notices tell the callback of a mode. -/
def newsFor (mode : Mode) (notices : List Notice) : List Standing :=
  notices.filterMap fun n => if n.mode = mode then some n.status else none

theorem newsFor_append (mode : Mode) (notices notices' : List Notice) :
    newsFor mode (notices ++ notices') = newsFor mode notices ++ newsFor mode notices' :=
  List.filterMap_append

theorem newsFor_noticesOf (mode mode' : Mode) (status? : Option Standing) :
    newsFor mode (noticesOf mode' status?) = if mode' = mode then status?.toList else [] := by
  cases status? with
  | none => simp [newsFor, noticesOf]
  | some status => by_cases h : mode' = mode <;> simp [newsFor, noticesOf, h]

/-- From one state to another the callbacks were told of the changes for their modes. -/
def Reported (s s' : State σ τ) : Prop :=
  ∃ notices, s'.notices = notices ++ s.notices ∧
    ∀ r, s.roster.modes = some r → ∃ r', s'.roster.modes = some r' ∧
      ∀ mode, (r.get mode).Tells (newsFor mode notices) (r'.get mode)

theorem Reported.of_kept (hm : s'.roster.modes = s.roster.modes) (hn : s'.notices = s.notices) : Reported s s' :=
  ⟨[], hn, fun r hr => ⟨r, hm.trans hr, fun _ => .of_eq rfl rfl⟩⟩

theorem Reported.trans (h : Reported s s') (h' : Reported s' s'') : Reported s s'' := by
  obtain ⟨notices, hn, hm⟩ := h
  obtain ⟨notices', hn', hm'⟩ := h'
  refine ⟨notices' ++ notices, by rw [hn', hn, List.append_assoc], fun r hr => ?_⟩
  obtain ⟨r', hr', htells⟩ := hm r hr
  obtain ⟨r'', hr'', htells'⟩ := hm' r' hr'
  refine ⟨r'', hr'', fun mode => ?_⟩
  rw [newsFor_append]
  exact (htells mode).trans (htells' mode)

theorem reported_update (hr : s.roster.modes = some r) {mode : Mode} {x : ModeState × Env σ}
    (hx : (r.get mode).Tells [] x.1) : Reported s (s.update mode x) := by
  refine ⟨[], rfl, fun r₀ hr₀ => ?_⟩
  obtain rfl : r = r₀ := Option.some.inj (hr.symm.trans hr₀)
  refine ⟨r.set mode x.1, congrArg Prod.fst (view_update hr mode x), fun mode' => ?_⟩
  rw [Modes.get_set]
  split
  · rename_i h
    exact h ▸ hx
  · exact .of_eq rfl rfl

theorem reported_tell (s : State σ τ) (mode : Mode) : Reported s (s.tell mode) := by
  cases hr : s.roster.modes with
  | none =>
    have hsame : s.tell mode = s := by simp [State.tell, State.mode?, hr]
    rw [hsame]
    exact .of_kept rfl rfl
  | some r =>
    have hm : s.mode? mode = some (r.get mode) := by simp [State.mode?, hr]
    refine ⟨_, notices_tell hm, fun r₀ hr₀ => ?_⟩
    obtain rfl : r = r₀ := Option.some.inj (hr.symm.trans hr₀)
    refine ⟨r.set mode (r.get mode).refresh.2, congrArg Prod.fst (view_tell hr mode), fun mode' => ?_⟩
    rw [newsFor_noticesOf, Modes.get_set]
    by_cases h : mode = mode'
    · rw [if_pos h, if_pos h, ← h]
      exact (r.get mode).tells_refresh
    · rw [if_neg h, if_neg h]
      exact .of_eq rfl rfl

/-! ## Events -/

theorem reported_react (name : String) (event : Event) (mode : Mode) (s : State σ τ) :
    Reported s (M.react name event mode s) := by
  unfold react State.mode?
  cases hr : s.roster.modes with
  | none => exact .of_kept rfl rfl
  | some r =>
    simp only [Option.map_some]
    split
    · have hfixed := Dispatch.fixed_answer M.platform M.policy.retryNanos event (r.get mode) s.env
      exact (reported_update hr (.of_fixed hfixed)).trans (reported_tell _ mode)
    · exact .of_kept rfl rfl

theorem reported_giveBack (name : String) (mode : Mode) (s : State σ τ) :
    Reported s (M.giveBack name mode s) := by
  unfold giveBack State.mode?
  cases hr : s.roster.modes with
  | none => exact .of_kept rfl rfl
  | some r =>
    simp only [Option.map_some]
    split
    · split
      · exact reported_update hr (.of_eq rfl rfl)
      · exact .of_kept rfl rfl
    · exact .of_kept rfl rfl

theorem reported_receive (name : String) (event : Event) (s : State σ τ) :
    Reported s (M.receive name event s) := by
  by_cases he : event = .ifDownPre
  · subst he
    have hboth := (reported_giveBack (M := M) name .normal s).trans (reported_giveBack (M := M) name .accessPoint _)
    unfold receive
    refine hboth.trans (.of_kept ?_ (notices_letThrough name _))
    rw [roster_letThrough]
  · rw [receive_eq_react he]
    exact (reported_react name event .normal s).trans (reported_react name event .accessPoint _)

/-! ## Starts and stops -/

theorem reported_withMode {h : Handle} {isControl : Bool} {run : ModeState → Operation σ τ α}
    (hrun : ∀ mode r (s' : State σ τ), s.roster.modes = some r → s'.roster.modes = some r →
      Reported s' (run (r.get mode) s').2) : Reported s (withMode h isControl run s).2 := by
  have hmodes := Roster.modes_enter h isControl s.roster
  unfold withMode withHandle
  cases hx : s.roster.enter h isControl with
  | mk answer roster =>
    rw [hx] at hmodes
    cases answer with
    | error err => exact .of_kept rfl rfl
    | ok g =>
      have hentered : Reported s { s with roster } := .of_kept hmodes rfl
      simp only
      split
      · exact hentered.trans (.of_kept (Roster.modes_leave _ _) rfl)
      · rename_i r hlock
        have hr : roster.modes = some r := (Roster.lock_eq_ok hlock).2
        refine (hentered.trans (hrun g.mode r { s with roster } (hmodes.symm.trans hr) hr)).trans ?_
        exact .of_kept (Roster.modes_leave _ _) rfl

theorem reported_bringUp (hr : s.roster.modes = some r) {mode : Mode} (hm : (r.get mode).mode = mode)
    (kind : InterfaceKind) (p : Parameters) : Reported s (M.bringUp (r.get mode) kind p s).2 := by
  unfold bringUp
  split
  · rename_i m' e' hs
    obtain rfl : m' = (r.get mode).cleared := Link.start_error _ hs
    rw [show (r.get mode).cleared.mode = mode from hm]
    exact reported_update hr (.of_eq rfl rfl)
  · rename_i m' e' hs
    obtain ⟨i, -, rfl⟩ := Link.start_ok _ hs
    simp only [show (r.get mode).cleared.mode = mode from hm]
    exact (reported_update hr (.of_eq rfl rfl)).trans (reported_tell _ mode)

theorem reported_announceStop (name : String) (s : State σ τ) : Reported s (M.announceStop name s) := by
  have hasked : Reported s { s with env := (s.env.perform (M.platform.announceStop name)).2 } := .of_kept rfl rfl
  rw [announceStop_eq]
  simp only
  split
  · exact hasked.trans (reported_receive name .ifDownPre _)
  · exact hasked

theorem reported_prepareStop (m : ModeState) (s : State σ τ) : Reported s (M.prepareStop m s) := by
  have hannounced : Reported s (M.announced m s) := by
    unfold announced
    split
    · exact reported_announceStop _ s
    · exact .of_kept rfl rfl
  have hmodes : (M.prepareStop m s).roster.modes = (M.announced m s).roster.modes := by
    rw [roster_prepareStop, Roster.modes_yield]
  exact hannounced.trans (.of_kept hmodes (notices_prepareStop m s))

theorem reported_takeDown (mode : Mode) (s : State σ τ) : Reported s (M.takeDown mode s).2 := by
  unfold takeDown
  split
  · exact .of_kept rfl rfl
  · rename_i r hlock
    have hr := (Roster.lock_eq_ok hlock).2
    have hfixed := Link.fixed_stop M.platform (r.get mode) s.env
    exact (reported_update hr (.of_fixed hfixed)).trans (reported_tell _ mode)

theorem notices_resolve (m : ModeState) (source : ParameterSource) (s : State σ τ) :
    (M.resolve m source s).2.notices = s.notices := by
  have hstored : (M.storedParameters m.mode s).2.notices = s.notices := by
    unfold storedParameters
    split <;> rfl
  unfold resolve
  cases source with
  | given p => rfl
  | lastSaved =>
    simp only
    split <;> rfl
  | storage =>
    simp only
    split <;> rename_i hx <;> rw [hx] at hstored <;> exact hstored

theorem reported_start (hl : ∀ r, s.roster.modes = some r → r.Labelled) (h : Handle) (source : ParameterSource) :
    Reported s (M.start h source s).2 := by
  refine reported_withMode fun mode r s' hr₀ hr => ?_
  split
  · exact .of_kept rfl rfl
  · obtain ⟨hroster, -⟩ : _ ∧ M.Leads false s'.view _ := resolve_leads (r.get mode) source s'
    have hnotices := notices_resolve (M := M) (r.get mode) source s'
    have hresolved : Reported s' (M.resolve (r.get mode) source s').2 :=
      .of_kept (congrArg Roster.modes hroster) hnotices
    split <;> rename_i hx <;> rw [hx] at hroster hresolved
    · exact hresolved
    · split
      · exact hresolved.trans (.of_kept rfl rfl)
      · exact hresolved.trans (reported_bringUp ((congrArg Roster.modes hroster).trans hr) (hl r hr₀ mode) _ _)

theorem reported_stop (h : Handle) (s : State σ τ) : Reported s (M.stop h s).2 := by
  refine reported_withMode fun mode r s' _ _ => ?_
  split
  · exact (reported_prepareStop _ s').trans (reported_takeDown _ _)
  · exact .of_kept rfl rfl

/-! ## Moves -/

theorem notices_withMode {h : Handle} {isControl : Bool} {run : ModeState → Operation σ τ α}
    (hrun : ∀ m (s' : State σ τ), (run m s').2.notices = s'.notices) (s : State σ τ) :
    (withMode h isControl run s).2.notices = s.notices := by
  unfold withMode withHandle
  split
  · rfl
  · simp only
    split
    · rfl
    · exact hrun _ _

/-- A move that is neither an event nor a start or stop tells nobody anything. -/
theorem notices_calm {mv : Move σ τ} (hc : mv.isCalm = true) (s : State σ τ) :
    (M.step mv s).notices = s.notices := by
  cases mv with
  | setUp =>
    show (M.setUp s).2.notices = s.notices
    unfold setUp
    (repeat' split) <;> rfl
  | dissolve =>
    show (M.dissolve s).2.notices = s.notices
    unfold dissolve
    split <;> rfl
  | issue => rfl
  | revoke h =>
    show (revokeHandle h s).2.notices = s.notices
    unfold revokeHandle
    split <;> rfl
  | start => cases hc
  | stop => cases hc
  | flags h => exact notices_withMode (fun _ _ => rfl) s
  | snapshot h => exact notices_withMode (fun _ _ => rfl) s
  | rssi h =>
    refine notices_withMode (fun m s' => ?_) s
    (repeat' split) <;> rfl
  | netstat h =>
    refine notices_withMode (fun m s' => ?_) s
    (repeat' split) <;> rfl
  | listen h =>
    refine notices_withMode (fun m s' => ?_) s
    split <;> rfl
  | unlisten h =>
    refine notices_withMode (fun m s' => ?_) s
    split <;> rfl
  | save mask p => exact (congrArg State.notices (saveParameters_frame mask p s)).trans rfl
  | load mask p => exact (congrArg State.notices (loadParameters_frame mask p s)).trans rfl
  | event => cases hc
  | outside => rfl
  | lock => rfl

/-- A callback that is registered when a move begins is told of what the move changes. -/
theorem notified_step (hl : ∀ r, s.roster.modes = some r → r.Labelled) (hr : s.roster.modes = some r) {mode : Mode}
    (hon : (r.get mode).listening = true) (mv : Move σ τ) {r' : Modes} (hr' : (M.step mv s).roster.modes = some r') :
    ∃ notices, (M.step mv s).notices = notices ++ s.notices ∧
      Notified (r.get mode).told (newsFor mode notices) (r'.get mode).told := by
  have hreported (h : Reported s (M.step mv s)) :
      ∃ notices, (M.step mv s).notices = notices ++ s.notices ∧
        Notified (r.get mode).told (newsFor mode notices) (r'.get mode).told := by
    obtain ⟨notices, hn, hm⟩ := h
    obtain ⟨r₀, hr₀, htells⟩ := hm r hr
    obtain rfl : r₀ = r' := Option.some.inj (hr₀.symm.trans hr')
    exact ⟨notices, hn, (htells mode).notified hon⟩
  -- A calm move may take the callback away, but tells nobody and changes nothing that was told.
  by_cases hcalm : mv.isCalm = true
  · obtain ⟨b, hb⟩ := calm_step (hl r hr) hr hcalm hr' mode
    rw [hb]
    exact ⟨[], notices_calm hcalm s, .none⟩
  · cases mv with
    | start h source => exact hreported (reported_start hl h source)
    | stop h => exact hreported (reported_stop h s)
    | event name event => exact hreported (reported_receive name event s)
    | _ => exact absurd rfl hcalm

/-! ## Runs -/

variable (M) in
/-- The move leaves the mode with a callback. -/
def Attended (mode : Mode) (s : State σ τ) (mv : Move σ τ) : Prop :=
  ((M.step mv s).mode? mode).map (·.listening) = some true

instance (mode : Mode) (s : State σ τ) (mv : Move σ τ) : Decidable (M.Attended mode s mv) :=
  inferInstanceAs (Decidable (_ = _))

theorem reach_attended {s₀ : State σ τ} (hn : s₀.roster.modes = none) (hs : M.Reach (fun _ _ => True) s₀ s)
    (hr : s.roster.modes = some r) {mode : Mode} (hon : (r.get mode).listening = true)
    (hs' : M.Reach (M.Attended mode) s s') :
    ∃ r' notices, s'.roster.modes = some r' ∧ (r'.get mode).listening = true ∧ s'.notices = notices ++ s.notices ∧
      Notified (r.get mode).told (newsFor mode notices) (r'.get mode).told := by
  induction hs' with
  | refl => exact ⟨r, [], hr, hon, rfl, .none⟩
  | @step s' mv hs' hok ih =>
    obtain ⟨r', notices, hr', hon', hnotices, hnotified⟩ := ih
    have hl := (hs.trans (hs'.mono fun _ _ _ => trivial)).labelled hn
    obtain ⟨m, hm, hon''⟩ := Option.map_eq_some_iff.mp hok
    obtain ⟨r'', hr'', rfl⟩ := Option.map_eq_some_iff.mp hm
    obtain ⟨notices', hnotices', hnotified'⟩ := notified_step hl hr' hon' mv hr''
    refine ⟨r'', notices' ++ notices, hr'', hon'', by rw [hnotices', hnotices, List.append_assoc], ?_⟩
    rw [newsFor_append]
    exact hnotified.trans hnotified'

/-- A registration that succeeds leaves what was told as it is. -/
theorem listen_ok {h : Handle} {mode : Mode} (hr : s.roster.modes = some r) (hm : s.roster.modeOf h = .ok mode)
    (hl : (r.get mode).mode = mode) (hok : (listen h s).1 = .ok ()) :
    (listen h s).2.roster.modes = some (r.set mode { r.get mode with listening := true }) := by
  rcases withMode_cases h false _ s with ⟨err, herr, -⟩ | ⟨mode', r', s', hm', hr', hs', -, hres, hv⟩
  · have herr : (listen h s).1 = .error err := herr
    rw [hok] at herr
    cases herr
  · obtain rfl : mode = mode' := Except.ok.inj (hm.symm.trans hm')
    obtain rfl : r = r' := Option.some.inj (hr.symm.trans hr')
    have hres : (listen h s).1 = _ := hres
    have hmodes : (listen h s).2.roster.modes = _ := congrArg Prod.fst hv
    rw [hok] at hres
    rw [hmodes]
    split at hres
    · cases hres
    · rename_i hoff
      rw [if_neg hoff]
      simp only [hl]
      exact congrArg Prod.fst (view_update ((congrArg Prod.fst hs').trans hr) mode _)

/-- Between moves each mode's callback was last told what it has to be told. From the registration of a
    callback on, and as long as it stays, the notices for it, after what was told before, never tell the
    same twice in a row, and the last of them tells what the mode has come to. -/
theorem reach_notified {env : Env σ} {store : τ} (hs : M.Reach (fun _ _ => True) (M.initial env store) s)
    (hr : s.roster.modes = some r) :
    (∀ mode, (r.get mode).told = (r.get mode).standing) ∧
    ∀ h mode, s.roster.modeOf h = .ok mode → (listen h s).1 = .ok () →
      ∀ s', M.Reach (M.Attended mode) (listen h s).2 s' →
        ∃ r' notices, s'.roster.modes = some r' ∧ s'.notices = notices ++ s.notices ∧
          let told := (r.get mode).told :: (newsFor mode notices).reverse
          told.IsChain (· ≠ ·) ∧ told.getLast? = some (r'.get mode).told ∧
            (r'.get mode).told = (r'.get mode).standing := by
  refine ⟨(hs.consistent rfl hr).told, fun h mode hm hok s' hs' => ?_⟩
  have hlisten : M.Reach (fun _ _ => True) (M.initial env store) (listen h s).2 := .step (.listen h) hs trivial
  have hr₁ := listen_ok hr hm (hs.labelled rfl r hr mode) hok
  obtain ⟨r', notices, hr', -, hnotices, hnotified⟩ :=
    reach_attended (M := M) rfl hlisten hr₁ (by rw [Modes.get_set, if_pos rfl]) hs'
  rw [Modes.get_set, if_pos rfl] at hnotified
  have hkept : (M.step (.listen h) s).notices = s.notices := notices_calm rfl s
  obtain ⟨hchain, hlast⟩ := hnotified.isChain
  have hs' := hlisten.trans (hs'.mono fun _ _ _ => trivial)
  have htold := (hs'.consistent rfl hr').told mode
  exact ⟨r', notices, hr', hnotices.trans (congrArg (notices ++ ·) hkept), hchain, hlast, htold⟩

end ControlPlane

open Simulation ControlPlane in
/-- The network is joined and lost. -/
theorem Camera.join_notified :
    let s := plane.run switchOn off
    let s' := plane.run
      [.start normal (.given home), .event "wlan0" .stationConnected, .event "wlan0" .stationDisconnected]
      (listen normal s).2
    s.roster.modeOf normal = .ok .normal ∧ (listen normal s).1 = .ok () ∧
      newsFor .normal s'.notices = [.disconnected, .connected] ∧
      ∃ r, s.roster.modes = some r ∧ (∀ mode, (r.get mode).told = (r.get mode).standing) ∧
        ∃ r' notices, s'.roster.modes = some r' ∧ s'.notices = notices ++ s.notices ∧
          let told := (r.get .normal).told :: (newsFor .normal notices).reverse
          told.IsChain (· ≠ ·) ∧ told.getLast? = some (r'.get .normal).told ∧
            (r'.get .normal).told = (r'.get .normal).standing := by
  intro s s'
  have hm : s.roster.modeOf normal = .ok .normal := by decide +kernel
  have hok : (listen normal s).1 = .ok () := by decide +kernel
  have hs' : plane.Reach (plane.Attended .normal) (listen normal s).2 s' := reach_run (by decide +kernel)
  have hsome : s.roster.modes.isSome = true := by decide +kernel
  obtain ⟨r, hr⟩ := Option.isSome_iff_exists.mp hsome
  obtain ⟨htold, hnotified⟩ := reach_notified (reach_any switchOn off) hr
  exact ⟨hm, hok, by decide +kernel, r, hr, htold, hnotified normal .normal hm hok s' hs'⟩

end Connectivity
