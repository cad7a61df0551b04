/-
  Connectivity.Proofs.Afterglow — which connection lights outlive the connections.
  - `Turn.shades`: a mode that is running has its own connection lights, and takes them along when it stops.
  - `Shaded`: so a light that tells of connecting or of a connection belongs to a mode that is running.
  - `passing_step`: a move that is no event leaves the marks of both modes alone.
  - `run_dark`: without a running mode only the marks can be lit, and they are exactly if the run left them so
    (`an_access_point_leaves_its_light_on`).
-/

import Connectivity.Proofs.Marks

namespace Connectivity

variable {σ τ : Type} {P : Platform σ} {m m' : ModeState} {e e' : Env σ}

/-! ## Turns -/

namespace ControlPlane

variable {M : ControlPlane σ τ} {cap : Bool} {x y : ModeState × Env σ}

/-- What the turn of a mode does to the lights of both. -/
structure Shades (m : ModeState) (i : Indicator) (y : ModeState × Env σ) : Prop where
  present : y.2.lights.present = i.present
  /-- A light that tells of a connection is lit for this mode, or was before and not for it. -/
  glows : ∀ s, s.tellsConnection = true → y.2.lights.lit s = true → y.1.glows s ∨ i.lit s = true ∧ ¬ m.glows s
  /-- The mark of the other mode stays. -/
  mark : ∀ mode, mode ≠ m.mode → y.2.lights.lit mode.mark = i.lit mode.mark

section
variable {i : Indicator}

theorem Shades.of_within {own : Signal → Prop} (h : i.Within own y.2.lights)
    (ho : ∀ s, s.tellsConnection = true → own s → y.1.glows s) (hm : ∀ mode, mode ≠ m.mode → ¬ own mode.mark)
    (hg : ∀ s, m.glows s → y.1.glows s) : Shades m i y := by
  refine ⟨h.present, fun s hs hlit => ?_, fun mode hne => h.same mode.mark (hm mode hne)⟩
  by_cases hown : own s
  · exact .inl (ho s hs hown)
  · by_cases hglow : m.glows s
    · exact .inl (hg s hglow)
    · exact .inr ⟨(h.same s hown).symm.trans hlit, hglow⟩

/-- Only errors are shown, if anything. -/
theorem Shades.of_errors (h : i.Within (fun s => s.light = .error) y.2.lights)
    (hg : ∀ s, m.glows s → y.1.glows s) : Shades m i y := by
  refine .of_within h (fun s hs hl => ?_) (fun mode _ hl => ?_) hg
  · rw [Signal.light_of_tells hs] at hl
    cases hl
  · rw [mode.light_mark] at hl
    cases hl

theorem not_touches_mark {mode : Mode} (hne : mode ≠ m.mode) : ¬ m.touches mode.mark := by
  rintro (hminds | hmark)
  · exact m.not_minds_mark mode hminds
  · exact hne (Mode.mark_inj.mp hmark)

/-- A mode that goes on running touches its own lights. -/
theorem Shades.of_touches (h : i.Within m.touches y.2.lights) (hr : y.1.status.isRunning = true)
    (hf : y.1.fixed = m.fixed) : Shades m i y := by
  have huses (s : Signal) (hu : m.uses s) : y.1.glows s := by
    refine ⟨hr, ?_⟩
    unfold ModeState.uses ModeState.carrierKind? at hu ⊢
    rw [ModeState.carrier_of_fixed hf, ModeState.mode_of_fixed hf]
    exact hu
  refine .of_within h (fun s hs htouches => ?_) (fun mode => not_touches_mark) fun s hglow => huses s hglow.2
  by_contra hn
  exact ModeState.not_touches hs (fun hu => hn (huses s hu)) htouches

theorem Shades.refresh (h : Shades m i y) : Shades m i (y.1.refresh.2, y.2) := by
  rw [ModeState.refresh_snd]
  exact ⟨h.present, h.glows, h.mark⟩

end

theorem within_tearDown {carrier : Carrier} (hc : m.carrier = some carrier) (e : Env σ) :
    e.lights.Within m.minds (Link.tearDown P carrier m e).2.lights := by
  have hk : m.carrierKind? = some carrier.kind := congrArg (·.map (·.kind)) hc
  rw [Link.lights_tearDown]
  exact ((Indicator.Within.refl _).update (m.minds_connecting hk) false).update (m.minds_connected hk) false

/-- An interface that is taken down takes the lights of its mode along. -/
theorem shades_tearDown {carrier : Carrier} (hc : m.carrier = some carrier) (e : Env σ) :
    Shades m e.lights (Link.tearDown P carrier m e) := by
  have hwithin := within_tearDown (P := P) hc e
  refine ⟨hwithin.present, fun s hs hlit => .inr ?_, fun mode _ => hwithin.same _ (m.not_minds_mark mode)⟩
  rw [Link.lights_tearDown, Indicator.lit_update, Indicator.lit_update] at hlit
  split at hlit
  · simp at hlit
  · rename_i hconnected
    split at hlit
    · simp at hlit
    · rename_i hconnecting
      refine ⟨hlit, fun ⟨_, kind, hk, hown⟩ => ?_⟩
      obtain rfl : carrier.kind = kind := by
        rw [ModeState.carrierKind?, hc] at hk
        exact Option.some.inj hk
      rcases hown with rfl | rfl
      · exact hconnecting rfl
      · exact hconnected rfl

theorem within_stop (m : ModeState) (e : Env σ) : e.lights.Within m.minds (Link.stop P m e).2.2.lights := by
  unfold Link.stop
  split
  · exact .refl _
  · rename_i carrier hc
    split <;> rename_i hx <;> have hl := congrArg (·.2.lights) hx.symm
    · exact (Indicator.Within.of_eq hl).trans (within_tearDown hc _)
    · split
      · exact (Indicator.Within.of_eq hl).trans (within_tearDown hc _)
      · exact (Indicator.Within.of_eq hl).update (.inl rfl) true

theorem shades_stop (m : ModeState) (e : Env σ) : Shades m e.lights (Link.stop P m e).2 := by
  unfold Link.stop
  split
  · rename_i hc
    refine .of_errors (.refl _) fun s hglow => ?_
    obtain ⟨-, kind, hk, -⟩ := hglow
    rw [ModeState.carrierKind?, hc] at hk
    cases hk
  · rename_i carrier hc
    split <;> rename_i e₁ hx <;> have hl : e₁.lights = e.lights := congrArg (·.2.lights) hx.symm <;> rw [← hl]
    · exact shades_tearDown hc e₁
    · split
      · exact shades_tearDown hc e₁
      · exact .of_errors ((Indicator.Within.refl _).error rfl) fun _ => id

theorem within_start_error {kind : InterfaceKind} {p : Parameters} {err : Error}
    (h : Link.start P kind p m e = (.error err, m', e')) :
    e.lights.Within (fun s => s.light = .error) e'.lights := by
  unfold Link.start at h
  split at h
  · cases h
    exact .refl _
  · rename_i i _
    split at h
    · cases h
      exact .refl _
    · rename_i setup _
      have hl := Link.lights_bringUp (P := P) i.name setup e
      split at h <;> rename_i hx <;> cases h
      rw [hx] at hl
      exact (Indicator.Within.of_eq hl).error rfl

theorem shades_start {kind : InterfaceKind} {p : Parameters} (hd : m.status = .disconnected)
    (h : Link.start P kind p m.cleared e = (.ok (), m', e')) :
    Shades m e.lights ({ m' with saved := some p, status := .connecting }, e') := by
  have hl := Link.lights_start_ok h
  obtain ⟨i, -, rfl⟩ := Link.start_ok _ h
  have hwithin : e.lights.Within (· = connectingSignal kind) e'.lights := by
    have hnone : e.lights.Within (· = connectingSignal kind) e.lights := .refl _
    rw [hl]
    exact hnone.update rfl true
  refine .of_within hwithin ?_ ?_ ?_
  · rintro s - rfl
    exact ⟨rfl, kind, rfl, .inl rfl⟩
  · intro mode _ hmark
    have htells := tells_connectingSignal kind
    rw [← hmark, mode.tells_mark] at htells
    cases htells
  · intro s hglow
    rw [ModeState.glows, hd] at hglow
    cases hglow.1

/-- The turn of a mode, whatever it is. -/
theorem Turn.shades (h : M.Turn cap x y) (hn : x.1.status.isRunning = false → x.1.client = none)
    (hwithin : ∀ name event, x.2.lights.Within x.1.touches (M.reaction name event x.1 x.2).2.lights) :
    Shades x.1 x.2.lights y := by
  cases h with
  | listening => exact .of_errors (.refl _) fun _ => id
  | @answered m e name event ha hpre =>
    by_cases hr : m.status.isRunning = true
    · have hw : e.lights.Within m.touches (M.reaction name event m e).2.lights := hwithin name event
      rw [reaction, if_pos ha, if_neg hpre] at hw
      refine Shades.refresh (.of_touches hw ?_ (Dispatch.fixed_answer _ _ event m e))
      exact (Dispatch.deeds_answer M.policy.retryNanos event hr).isRunning hr
    · have hr := eq_false_of_ne_true hr
      have hs := Status.eq_disconnecting hr (ModeState.accepts_iff.mp ha).1
      obtain ⟨-, he⟩ := Dispatch.answer_ending (P := M.platform) M.policy.retryNanos event (e := e) hs (hn hr)
      refine .of_errors (.of_eq (congrArg Env.lights he)) fun s hglow => ?_
      rw [ModeState.glows, hr] at hglow
      cases hglow.1
  | gaveBack => exact .of_errors (.refl _) fun _ => id
  | notStarted hd hs =>
    refine .of_errors (within_start_error hs) fun s hglow => ?_
    rw [ModeState.glows, hd] at hglow
    cases hglow.1
  | started hd _ hs => exact (shades_start hd hs).refresh
  | stopped => exact (shades_stop _ _).refresh

/-- A stop fails and leaves the mode, or its connection is over. -/
theorem stop_fst (m : ModeState) (e : Env σ) :
    (Link.stop P m e).2.1 = m ∨ (Link.stop P m e).2.1.status.isRunning = false ∧
      ((Link.stop P m e).2.1.apStarted = true → m.apStarted = true) := by
  cases hx : Link.stop P m e with
  | mk result x =>
    obtain ⟨m', e'⟩ := x
    cases result with
    | error err =>
      obtain ⟨-, -, rfl, -⟩ := Link.stop_error _ hx
      exact .inl rfl
    | ok =>
      rcases Link.stop_ok _ hx with ⟨-, rfl, -⟩ | ⟨c, -, e₁, -, -, -, ht⟩
      · exact .inr ⟨rfl, id⟩
      · obtain ⟨down, hdown⟩ := Link.tearDown_fst P c m e₁
        obtain rfl : _ = m' := hdown.symm.trans (congrArg Prod.fst ht)
        exact .inr ⟨by cases down <;> rfl, nofun⟩

theorem Turn.regained (h : M.Turn cap x y) (hm : x.1.mode = .normal) (hc : x.1.Consistent none) (hr : Regained x) :
    Regained y := by
  cases h with
  | listening => exact hr
  | @answered m e name event ha hpre =>
    have hregained := (tends_reaction (M := M) hm hc hr name event).regained
    rw [reaction, if_pos ha, if_neg hpre] at hregained
    exact hregained
  | gaveBack => exact hr
  | notStarted hd hs =>
    obtain rfl := Link.start_error _ hs
    intro hconnected
    have hconnected : _ = Status.connected := hd.symm.trans hconnected
    cases hconnected
  | started =>
    rw [ModeState.refresh_snd]
    intro hconnected
    cases hconnected
  | @stopped m e =>
    intro hs
    rw [ModeState.refresh_snd] at hs
    have hs : (Link.stop M.platform m e).2.1.status = .connected := hs
    refine ((within_stop m e).same .dhcpRecovering (m.not_minds_mark .normal)).trans (hr ?_)
    rcases stop_fst (P := M.platform) m e with hsame | ⟨hover, -⟩
    · rw [hsame] at hs
      exact hs
    · rw [hs] at hover
      cases hover

theorem Turn.marked (h : M.Turn cap x y) (hm : x.1.mode = .accessPoint) (hc : x.1.client = none) (hx : Marked x) :
    Marked y := by
  cases h with
  | listening => exact hx
  | @answered m e name event ha hpre =>
    have hmarked := (rises_reaction (M := M) hm hc hx name event).marked
    rw [reaction, if_pos ha, if_neg hpre] at hmarked
    exact hmarked
  | gaveBack => exact hx
  | notStarted hd hs =>
    obtain rfl := Link.start_error _ hs
    intro hstarted
    cases hstarted
  | started _ _ hs =>
    obtain ⟨i, -, rfl⟩ := Link.start_ok _ hs
    rw [ModeState.refresh_snd]
    intro hstarted
    cases hstarted
  | @stopped m e =>
    intro hs
    rw [ModeState.refresh_snd] at hs
    have hs : (Link.stop M.platform m e).2.1.apStarted = true := hs
    have hwithin := within_stop (P := M.platform) m e
    refine ((hwithin.same .apStarted (m.not_minds_mark .accessPoint)).trans (hx ?_)).trans hwithin.present.symm
    rcases stop_fst (P := M.platform) m e with hsame | ⟨-, hup⟩
    · rw [hsame] at hs
      exact hs
    · exact hup hs

/-! ## Both modes -/

/-- The connection lights of both modes on a board where lights are `there`. -/
structure Shaded (there : Bool) (v : Option Modes × Env σ) : Prop where
  present : v.2.lights.present = there
  consistent (r : Modes) : v.1 = some r → r.Consistent none
  glows (x : Signal) : x.tellsConnection = true → v.2.lights.lit x = true →
    ∃ r mode, v.1 = some r ∧ (r.get mode).glows x
  regained (r : Modes) : v.1 = some r → Regained (r.normal, v.2)
  marked (r : Modes) : v.1 = some r → Marked (r.accessPoint, v.2)

section
variable {there : Bool} {r : Modes}

theorem within_reaction {v : Option Modes × Env σ} (h : Shaded there v) (hr : v.1 = some r) (hl : r.Labelled)
    (mode : Mode) (name : String) (event : Event) :
    v.2.lights.Within (r.get mode).touches (M.reaction name event (r.get mode) v.2).2.lights := by
  have hc := h.consistent r hr
  cases mode with
  | normal => exact (tends_reaction (hl .normal) hc.normal (h.regained r hr) name event).within
  | accessPoint => exact (rises_reaction (hl .accessPoint) hc.accessPoint (h.marked r hr) name event).within

/-- Lights of errors are all that changes. -/
theorem Shaded.errors {e e' : Env σ} {r? : Option Modes} (h : Shaded there (r?, e))
    (hl : e.lights.Within (fun x => x.light = .error) e'.lights) : Shaded there (r?, e') := by
  have hsame (x : Signal) (hx : x.light = .connection) : e'.lights.lit x = e.lights.lit x := by
    refine hl.same x fun herror => ?_
    rw [hx] at herror
    cases herror
  refine ⟨hl.present.trans h.present, h.consistent, fun x hx hlit => ?_, fun r hr hs => ?_, fun r hr hs => ?_⟩
  · exact h.glows x hx ((hsame x (Signal.light_of_tells hx)).symm.trans hlit)
  · exact (hsame .dhcpRecovering rfl).trans (h.regained r hr hs)
  · exact (hsame .apStarted rfl).trans ((h.marked r hr hs).trans hl.present.symm)

theorem Asked.errors {e e' : Env σ} (h : Asked M.platform e e') :
    e.lights.Within (fun x => x.light = .error) e'.lights := by
  cases h with
  | signal x on hx => exact (Indicator.Within.refl _).update hx on
  | _ => exact .refl _

theorem Shaded.turn {e : Env σ} {mode : Mode} (h : Shaded there (some r, e)) (hl : r.Labelled)
    (hc : (r.set mode x.1).Consistent none) (ht : M.Turn cap (r.get mode, e) x) :
    Shaded there (some (r.set mode x.1), x.2) := by
  have hconsistent := h.consistent r rfl
  obtain ⟨hpresent, hglows, hmark⟩ := ht.shades (fun hr => hconsistent.no_client hr)
    fun name event => within_reaction h rfl hl mode name event
  refine ⟨hpresent.trans h.present, ?_, fun s hs hlit => ?_, ?_, ?_⟩
  · rintro _ ⟨⟩
    exact hc
  · rcases hglows s hs hlit with hglow | ⟨hlit, hnot⟩
    · refine ⟨_, mode, rfl, ?_⟩
      rw [Modes.get_set, if_pos rfl]
      exact hglow
    · obtain ⟨_, other, ⟨⟩, hglow⟩ := h.glows s hs hlit
      refine ⟨_, other, rfl, ?_⟩
      rw [Modes.get_set, if_neg]
      · exact hglow
      · rintro rfl
        exact hnot hglow
  · rintro _ ⟨⟩
    cases mode with
    | normal => exact ht.regained (hl .normal) hconsistent.normal (h.regained r rfl)
    | accessPoint =>
      intro hs
      have hlabel : (r.get .accessPoint).mode = .accessPoint := hl .accessPoint
      exact (hmark .normal (by rw [hlabel]; decide)).trans (h.regained r rfl hs)
  · rintro _ ⟨⟩
    cases mode with
    | accessPoint => exact ht.marked (hl .accessPoint) hconsistent.accessPoint (h.marked r rfl)
    | normal =>
      intro hs
      have hlabel : (r.get .normal).mode = .normal := hl .normal
      exact (hmark .accessPoint (by rw [hlabel]; decide)).trans ((h.marked r rfl hs).trans hpresent.symm)

theorem Shaded.fresh {interfaces : List Interface} {e : Env σ} (h : Shaded there (none, e))
    (hi : Modes.ofInterfaces? interfaces = some r) : Shaded there (some r, e) := by
  refine ⟨h.present, ?_, fun x hx hlit => ?_, ?_, ?_⟩
  · rintro _ ⟨⟩
    exact consistent_ofInterfaces? hi
  · obtain ⟨_, _, hnone, -⟩ := h.glows x hx hlit
    cases hnone
  · rintro _ ⟨⟩ hs
    obtain ⟨_, _, hnew⟩ := get_ofInterfaces? hi .normal
    have hnew : r.normal = _ := hnew
    rw [hnew] at hs
    cases hs
  · rintro _ ⟨⟩ hs
    obtain ⟨_, _, hnew⟩ := get_ofInterfaces? hi .accessPoint
    have hnew : r.accessPoint = _ := hnew
    rw [hnew] at hs
    cases hs

end

variable (M) in
/-- Moves that do not end the modes. -/
def Lasts (s : State σ τ) (mv : Move σ τ) : Prop :=
  match mv with
  | .dissolve => (M.dissolve s).1 ≠ .ok ()
  | _ => True

theorem invariant_shaded (there : Bool) : M.Invariant M.Lasts (Shaded there) where
  change _ hch hl h := by
    cases hch with
    | turn mode ht => exact h.turn (hl _ rfl) (consistent_set (h.consistent _ rfl) (hl _ rfl) nofun ht) ht
    | asked ha => exact h.errors ha.errors
    | fresh hi => exact h.fresh hi
  outside _ h := ⟨h.present, h.consistent, h.glows, h.regained, h.marked⟩
  gone hok hd _ := absurd hd hok

/-! ## Moves that are no events -/

/-- Nothing changes but lights that tell of a connection or an error. -/
def Passing (e e' : Env σ) : Prop :=
  e.lights.Within (fun x => x.light = .error ∨ x.tellsConnection = true) e'.lights

theorem Passing.of_lights (h : e'.lights = e.lights) : Passing e e' := .of_eq h

theorem Passing.of_minds (h : e.lights.Within m.minds e'.lights) : Passing e e' :=
  h.mono fun _ hx => hx.imp_right ModeState.tells_of_uses

theorem Passing.of_errors (h : e.lights.Within (fun x => x.light = .error) e'.lights) : Passing e e' :=
  h.mono fun _ => .inl

theorem Passing.mark (h : Passing e e') (mode : Mode) : e'.lights.lit mode.mark = e.lights.lit mode.mark := by
  refine h.same _ ?_
  rw [mode.light_mark, mode.tells_mark]
  exact nofun

section
variable {s : State σ τ}

theorem passing_withMode {α : Type} {h : Handle} {isControl : Bool} {run : ModeState → Operation σ τ α}
    (hrun : ∀ m (s' : State σ τ), Passing s'.env (run m s').2.env) :
    Passing s.env (withMode h isControl run s).2.env := by
  rcases withMode_cases h isControl run s with ⟨_, -, hv⟩ | ⟨mode, r, s', -, -, hs', -, -, hv⟩
  · exact .of_lights (congrArg (·.2.lights) hv)
  · have henv : (withMode h isControl run s).2.env = _ := congrArg Prod.snd hv
    have hs' : s'.env = s.env := congrArg Prod.snd hs'
    rw [henv, ← hs']
    exact hrun (r.get mode) s'

theorem lights_unsubscribeAll (names : List String) (e : Env σ) : (M.unsubscribeAll names e).lights = e.lights := by
  induction names generalizing e with
  | nil => rfl
  | cons name names ih => exact ih _

theorem lights_subscribeAll (done names : List String) (e : Env σ) :
    (M.subscribeAll done names e).2.lights = e.lights := by
  induction names generalizing done e with
  | nil => rfl
  | cons name names ih =>
    unfold subscribeAll
    split <;> rename_i hx <;> have hl := congrArg (·.2.lights) hx.symm
    · exact (lights_unsubscribeAll done _).trans hl
    · exact (ih _ _).trans hl

theorem lights_setUp (s : State σ τ) : (M.setUp s).2.env.lights = s.env.lights := by
  unfold setUp
  split <;> rename_i hx
  · exact congrArg (·.2.lights) hx.symm
  · rename_i interfaces e₁
    have hl : e₁.lights = s.env.lights := congrArg (·.2.lights) hx.symm
    have hsub := (lights_subscribeAll (M := M) [] (interfaces.map (·.name)) e₁).trans hl
    split
    · exact hl
    · exact hl
    · split <;> rename_i hy <;> rw [hy] at hsub
      · exact hsub
      · split <;> exact hsub

theorem lights_dissolve (s : State σ τ) : (M.dissolve s).2.env.lights = s.env.lights := by
  unfold dissolve
  split
  · rfl
  · exact lights_unsubscribeAll _ _

theorem lights_giveBack (name : String) (mode : Mode) (s : State σ τ) :
    (M.giveBack name mode s).env.lights = s.env.lights := by
  unfold giveBack
  (repeat' split) <;> rfl

theorem lights_announceStop (name : String) (s : State σ τ) :
    (M.announceStop name s).env.lights = s.env.lights := by
  rw [announceStop_eq]
  simp only
  split
  · unfold receive
    rw [env_letThrough]
    exact (lights_giveBack name .accessPoint _).trans (lights_giveBack name .normal _)
  · rfl

theorem lights_prepareStop (m : ModeState) (s : State σ τ) : (M.prepareStop m s).env.lights = s.env.lights := by
  rw [env_prepareStop, announced]
  split
  · exact lights_announceStop _ s
  · rfl

theorem env_tell (mode : Mode) (s : State σ τ) : (s.tell mode).env = s.env := by
  unfold State.tell
  (repeat' split) <;> rfl

theorem passing_stop (h : Handle) (s : State σ τ) : Passing s.env (M.stop h s).2.env := by
  refine passing_withMode fun m s' => ?_
  have htake (s'' : State σ τ) (hl : s''.env.lights = s'.env.lights) :
      Passing s'.env (M.takeDown m.mode s'').2.env := by
    unfold takeDown
    split
    · exact .of_lights hl
    · rename_i r _
      have hstop := within_stop (P := M.platform) (r.get m.mode) s''.env
      rw [hl] at hstop
      simp only [env_tell]
      exact .of_minds hstop
  split
  · exact htake _ (lights_prepareStop m s')
  · exact .of_lights rfl

theorem passing_resolve (m : ModeState) (source : ParameterSource) (s : State σ τ) :
    Passing s.env (M.resolve m source s).2.env := by
  have hsignal (s' : State σ τ) (he : s'.env = s.env) : Passing s.env (s'.signal .errorNoConnectInfo true).env := by
    rw [← he]
    exact .of_errors ((Indicator.Within.refl _).error rfl)
  unfold resolve
  cases source with
  | given p => exact .of_lights rfl
  | lastSaved =>
    simp only
    split
    · exact .of_lights rfl
    · exact hsignal s rfl
  | storage =>
    have he := (storedParameters_keeps (M := M) m.mode s).2
    simp only
    split <;> rename_i hx <;> rw [hx] at he
    · exact hsignal _ he
    · exact .of_lights (congrArg Env.lights he)

theorem passing_bringUp (m : ModeState) (kind : InterfaceKind) (p : Parameters) (s : State σ τ) :
    Passing s.env (M.bringUp m kind p s).2.env := by
  unfold bringUp
  split
  · rename_i hs
    exact .of_errors (within_start_error hs)
  · rename_i m' e' hs
    simp only [env_tell]
    show s.env.lights.Within _ e'.lights
    rw [Link.lights_start_ok hs]
    exact Passing.of_lights rfl |>.update (.inr (tells_connectingSignal kind)) true

theorem passing_start (h : Handle) (source : ParameterSource) (s : State σ τ) :
    Passing s.env (M.start h source s).2.env := by
  refine passing_withMode fun m s' => ?_
  have hresolve := passing_resolve (M := M) m source s'
  split
  · exact .of_lights rfl
  · split <;> rename_i hx <;> rw [hx] at hresolve
    · exact hresolve
    · split
      · exact hresolve.update (.inl rfl) true
      · exact hresolve.trans (passing_bringUp m _ _ _)

theorem passing_rssi (h : Handle) (s : State σ τ) : Passing s.env (M.rssi h s).2.env := by
  refine passing_withMode fun m s' => ?_
  split
  · split <;> rename_i hx <;> exact .of_lights (congrArg (·.2.lights) hx.symm)
  · exact .of_lights rfl

theorem passing_netstat (h : Handle) (s : State σ τ) : Passing s.env (M.netstat h s).2.env := by
  refine passing_withMode fun m s' => ?_
  split
  · exact .of_lights rfl
  · split <;> rename_i hx <;> exact .of_lights (congrArg (·.2.lights) hx.symm)

theorem passing_step (mv : Move σ τ) (hn : ∀ name event, mv ≠ .event name event) :
    Passing s.env (M.step mv s).env := by
  cases mv with
  | setUp => exact .of_lights (lights_setUp s)
  | dissolve => exact .of_lights (lights_dissolve s)
  | issue mode access => exact .of_lights (congrArg (·.2.lights) (issueHandle_keeps mode access s))
  | revoke h => exact .of_lights (congrArg (·.2.lights) (revokeHandle_keeps h s))
  | start h source => exact passing_start h source s
  | stop h => exact passing_stop h s
  | flags h => exact passing_withMode fun _ _ => .of_lights rfl
  | snapshot h => exact passing_withMode fun _ _ => .of_lights rfl
  | rssi h => exact passing_rssi h s
  | netstat h => exact passing_netstat h s
  | listen h => exact passing_withMode fun _ _ => by split <;> exact .of_lights rfl
  | unlisten h => exact passing_withMode fun _ _ => by split <;> exact .of_lights rfl
  | save mask p => exact .of_lights (congrArg (·.2.lights) (saveParameters_keeps (M := M) mask p s))
  | load mask p => exact .of_lights (congrArg (·.2.lights) (loadParameters_keeps (M := M) mask p s))
  | event name event => exact absurd rfl (hn name event)
  | outside => exact .of_lights rfl
  | lock => exact .of_lights rfl

end

/-! ## Runs -/

/-- What a run leaves for the lights to show. -/
structure Afterglow where
  /-- The access point has been up. -/
  served : Bool := false
  /-- The normal mode has lost the lease of a connection, and has not been connected since. -/
  lapsed : Bool := false
  deriving DecidableEq, Repr

def State.isConnected (s : State σ τ) : Bool := (s.mode? .normal).any (·.status = .connected)

def State.isServing (s : State σ τ) : Bool := (s.mode? .accessPoint).any (·.apStarted)

def Move.isTick : Move σ τ → Bool
  | .event _ .tick => true
  | _ => false

variable (M) in
/-- One more move of a run, and what it leaves behind: a lease is lost if a tick finds the normal mode
    connected and leaves it without a connection. -/
def remember (x : State σ τ × Afterglow) (mv : Move σ τ) : State σ τ × Afterglow :=
  let s := M.step mv x.1
  (s,
    { served := x.2.served || s.isServing
      lapsed := !s.isConnected && (x.2.lapsed || mv.isTick && x.1.isConnected) })

/-- The marks are lit for what a run has left behind, where there are lights. -/
structure Remembered (there : Bool) (x : State σ τ × Afterglow) : Prop where
  served : x.1.env.lights.lit .apStarted = (there && x.2.served)
  lapsed : x.1.env.lights.lit .dhcpRecovering = (there && x.2.lapsed)

section
variable {there : Bool} {s : State σ τ} {g : Afterglow} {mv : Move σ τ} {r : Modes}

/-- An access point that is up and a connection that is made show in the marks already. -/
theorem Remembered.of_same (h : Remembered there (s, g)) (hs' : Shaded there (M.step mv s).view)
    (hmark : ∀ mode : Mode, (M.step mv s).env.lights.lit mode.mark = s.env.lights.lit mode.mark)
    (ht : (mv.isTick && s.isConnected) = false) : Remembered there (M.remember (s, g) mv) := by
  have hserved : (M.step mv s).env.lights.lit .apStarted = (there && g.served) :=
    (hmark .accessPoint).trans h.served
  have hlapsed : (M.step mv s).env.lights.lit .dhcpRecovering = (there && g.lapsed) :=
    (hmark .normal).trans h.lapsed
  refine ⟨hserved.trans ?_, hlapsed.trans ?_⟩
  · simp only [remember]
    cases hup : (M.step mv s).isServing with
    | false => rw [Bool.or_false]
    | true =>
      obtain ⟨m, hm, hup⟩ := (Option.any_eq_true _ _).mp hup
      obtain ⟨r, hr, rfl⟩ := Option.map_eq_some_iff.mp hm
      have hlit : (M.step mv s).env.lights.lit .apStarted = _ := hs'.marked r hr hup
      rw [hserved, hs'.present] at hlit
      rw [hlit, Bool.or_true, Bool.and_true]
  · simp only [remember, ht, Bool.or_false]
    cases hc : (M.step mv s).isConnected with
    | false => rfl
    | true =>
      obtain ⟨m, hm, hc⟩ := (Option.any_eq_true _ _).mp hc
      obtain ⟨r, hr, rfl⟩ := Option.map_eq_some_iff.mp hm
      have hdark : (M.step mv s).env.lights.lit .dhcpRecovering = false := hs'.regained r hr (of_decide_eq_true hc)
      rw [← hlapsed, hdark]
      simp

/-- Each mode answers an event with its own mark. -/
theorem Remembered.receive (h : Remembered there (s, g)) (hs : Shaded there s.view) (hl : r.Labelled)
    (hr : s.roster.modes = some r) (name : String) (event : Event) :
    Remembered there (M.remember (s, g) (.event name event)) := by
  have hc := hs.consistent r hr
  have hlabel {other : Mode} (mode : Mode) (hne : other ≠ mode) : other ≠ (r.get mode).mode := by
    rw [hl mode]
    exact hne
  have hv := view_receive (M := M) hr name event
  have hnormal : Tends r.normal.touches s.env.lights (event = .tick && r.normal.status = .connected)
      (M.reaction name event r.normal s.env) :=
    tends_reaction (hl .normal) hc.normal (hs.regained r hr) name event
  generalize M.reaction name event r.normal s.env = x at hv hnormal
  have hkept : x.2.lights.lit .apStarted = s.env.lights.lit .apStarted :=
    hnormal.within.same Mode.accessPoint.mark (not_touches_mark (hlabel .normal nofun))
  have hmarked : Marked (r.accessPoint, x.2) := fun hup =>
    hkept.trans ((hs.marked r hr hup).trans hnormal.within.present.symm)
  have hap : Rises r.accessPoint.touches x.2.lights (M.reaction name event r.accessPoint x.2) :=
    rises_reaction (hl .accessPoint) hc.accessPoint hmarked name event
  generalize M.reaction name event r.accessPoint x.2 = z at hv hap
  have hkept' : z.2.lights.lit .dhcpRecovering = x.2.lights.lit .dhcpRecovering :=
    hap.within.same Mode.normal.mark (not_touches_mark (hlabel .accessPoint nofun))
  have henv : (M.step (.event name event) s).env = z.2 := congrArg Prod.snd hv
  have hmodes : (M.step (.event name event) s).roster.modes = some { r with normal := x.1, accessPoint := z.1 } :=
    congrArg Prod.fst hv
  have hthere : s.env.lights.present = there := hs.present
  have hserving : (M.step (.event name event) s).isServing = z.1.apStarted := by
    simp [State.isServing, State.mode?, hmodes, Modes.get]
  have hconnected : (M.step (.event name event) s).isConnected = decide (x.1.status = .connected) := by
    simp [State.isConnected, State.mode?, hmodes, Modes.get]
  have hbefore : s.isConnected = decide (r.normal.status = .connected) := by
    simp [State.isConnected, State.mode?, hr, Modes.get]
  have htick : (Move.event name event : Move σ τ).isTick = decide (event = .tick) := by
    cases event <;> rfl
  refine ⟨?_, ?_⟩
  · simp only [remember, henv, hserving]
    rw [hap.mark, hkept, h.served, hnormal.within.present, hthere]
    cases there <;> simp
  · simp only [remember, henv, hconnected, hbefore, htick]
    rw [hkept', hnormal.mark, h.lapsed, hthere]
    cases there <;> simp

theorem Remembered.step (h : Remembered there (s, g)) (hs : Shaded there s.view)
    (hl : ∀ r, s.roster.modes = some r → r.Labelled) (hs' : Shaded there (M.step mv s).view) :
    Remembered there (M.remember (s, g) mv) := by
  cases mv with
  | event name event =>
    cases hr : s.roster.modes with
    | none =>
      have hsame : M.step (.event name event) s = s := receive_of_none hr name event
      refine h.of_same hs' (fun mode => by rw [hsame]) ?_
      have hdown : s.isConnected = false := by simp [State.isConnected, State.mode?, hr]
      rw [hdown, Bool.and_false]
    | some r => exact h.receive hs (hl r hr) hr name event
  | _ => exact h.of_same hs' (fun mode => (passing_step _ (by rintro _ _ ⟨⟩)).mark mode) rfl

theorem remember_fst (mvs : List (Move σ τ)) (x : State σ τ × Afterglow) :
    (mvs.foldl M.remember x).1 = M.run mvs x.1 := by
  induction mvs generalizing x with
  | nil => rfl
  | cons mv mvs ih => exact ih _

theorem remembered_run {mvs : List (Move σ τ)} {x : State σ τ × Afterglow} (hok : M.Allowed M.Lasts x.1 mvs)
    (hl : ∀ r, x.1.roster.modes = some r → r.Labelled) (hs : Shaded there x.1.view) (h : Remembered there x) :
    Shaded there (mvs.foldl M.remember x).1.view ∧ Remembered there (mvs.foldl M.remember x) := by
  induction mvs generalizing x with
  | nil => exact ⟨hs, h⟩
  | cons mv mvs ih =>
    obtain ⟨hmv, hok⟩ := hok
    obtain ⟨hs', hl'⟩ := (invariant_shaded there).step hmv hl hs
    exact ih (x := M.remember x mv) hok hl' hs' (h.step hs hl hs')

end

/-- Whatever is called, whatever events arrive and whatever the platform answers, from the set-up to the end of
    the modes and with every light off at first: while no mode is running, no light that tells of connecting or of
    a connection is lit. Two lights of the connection can be lit then, and exactly these: that of the access point,
    once it has been up, and that of a lease that is recovered, if a lease was lost and no connection has been
    made since. -/
theorem run_dark {s₀ : State σ τ} (hn : s₀.roster.modes = none) (hoff : ∀ x, s₀.env.lights.lit x = false)
    {mvs : List (Move σ τ)} (hok : M.Allowed M.Lasts s₀ mvs) :
    let y := mvs.foldl M.remember (s₀, {})
    y.1 = M.run mvs s₀ ∧ ∀ r, y.1.roster.modes = some r → (∀ mode, (r.get mode).status.isRunning = false) →
      ∀ x, x.light = .connection → (y.1.env.lights.lit x = true ↔
        s₀.env.lights.present = true ∧
          (x = .apStarted ∧ y.2.served = true ∨ x = .dhcpRecovering ∧ y.2.lapsed = true)) := by
  intro y
  refine ⟨remember_fst mvs _, fun r hr hidle x hx => ?_⟩
  have hnone (r : Modes) : s₀.roster.modes ≠ some r := by
    rw [hn]
    exact nofun
  have hshaded : Shaded s₀.env.lights.present s₀.view := by
    refine ⟨rfl, fun r hr => absurd hr (hnone r), fun x _ hlit => ?_, fun r hr => absurd hr (hnone r),
      fun r hr => absurd hr (hnone r)⟩
    rw [show s₀.view.2.lights.lit x = false from hoff x] at hlit
    cases hlit
  have hremembered : Remembered s₀.env.lights.present (s₀, {}) := by
    refine ⟨?_, ?_⟩ <;> rw [Bool.and_false] <;> exact hoff _
  obtain ⟨hs, hserved, hlapsed⟩ : Shaded s₀.env.lights.present y.1.view ∧ Remembered s₀.env.lights.present y :=
    remembered_run hok (fun r hr => absurd hr (hnone r)) hshaded hremembered
  -- Each light but the marks belongs to a mode that is running.
  have hdark (ht : x.tellsConnection = true) : y.1.env.lights.lit x = false := by
    by_contra hlit
    obtain ⟨r', mode, hr', hrunning, -⟩ := hs.glows x ht (eq_true_of_ne_false hlit)
    obtain rfl : r = r' := Option.some.inj (hr.symm.trans hr')
    rw [hidle mode] at hrunning
    cases hrunning
  cases x with
  | apStarted => simp [hserved]
  | dhcpRecovering => simp [hlapsed]
  | connectingEthernet => simp [hdark rfl]
  | connectingWifi => simp [hdark rfl]
  | connectedEthernet => simp [hdark rfl]
  | connectedWifi => simp [hdark rfl]
  | _ => cases hx

end ControlPlane

namespace Camera

open Simulation ControlPlane

/-- The normal mode is stopped while its lease is recovered. -/
def lull : List (Move Board Shelf) := lapse ++ [.stop normal]

theorem lull_dark :
    let y := lull.foldl plane.remember (off, {})
    ∃ r, y.1.roster.modes = some r ∧ (∀ mode, (r.get mode).status = .disconnected) ∧
      ∀ x, x.light = .connection → (y.1.env.lights.lit x = true ↔ x = .dhcpRecovering) := by
  intro y
  have hm : y.1.roster.modes.any (fun r =>
      decide (r.normal.status = .disconnected) && decide (r.accessPoint.status = .disconnected)) = true := by
    decide +kernel
  obtain ⟨r, hr, hd⟩ := (Option.any_eq_true _ _).mp hm
  simp only [Bool.and_eq_true, decide_eq_true_eq] at hd
  have hdown (mode : Mode) : (r.get mode).status = .disconnected := by
    cases mode with
    | normal => exact hd.1
    | accessPoint => exact hd.2
  have hg : y.2 = { served := false, lapsed := true } := by decide +kernel
  have hok : plane.Allowed plane.Lasts off lull :=
    ⟨trivial, trivial, trivial, trivial, trivial, trivial, trivial, trivial, trivial⟩
  obtain ⟨-, hdark⟩ := run_dark (M := plane) rfl (fun _ => rfl) hok
  refine ⟨r, hr, hdown, fun x hx => ?_⟩
  have hiff := hdark r hr (fun mode => by rw [hdown mode]; rfl) x hx
  have hthere : off.env.lights.present = true := rfl
  rw [hiff, hg, hthere]
  simp

/-- An access point comes up and is stopped, and its light stays on. -/
theorem an_access_point_leaves_its_light_on :
    let s := plane.run (switchOn ++
      [.start accessPoint (.given hotspot), .event "wlan0" .apStarted, .stop accessPoint]) off
    (∀ x, off.env.lights.lit x = false) ∧
    s.roster.modes.map (fun r => (r.normal.status, r.accessPoint.status)) = some (.disconnected, .disconnected) ∧
    Signal.apStarted.light = .connection ∧ s.env.lights.lit .apStarted = true := by
  refine ⟨fun _ => rfl, ?_⟩
  decide +kernel

end Camera

end Connectivity
