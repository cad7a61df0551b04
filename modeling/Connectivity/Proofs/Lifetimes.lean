/-
  Connectivity.Proofs.Lifetimes — handles over several lifetimes of the table that they name slots of.
  - `register`: the register of a table (see Names) as the moves of a control plane write it. It begins anew
    when the control plane is dissolved. `enrolled_step`: every move keeps the table to its register.
  - `Refuses`: no call is accepted through a handle. `refuses_of_unnamed`: so it is with every handle that the
    register does not name.
  - `Stamped`: a handle was issued with the generation that its slot had.
  - `run_lifetimes`: so after a dissolution no handle is accepted until it is issued again. But a new table
    counts its generations from the start, so that an old handle comes back as the name of a new one
    (`an_old_handle_stands_for_a_new_one`), where its slot was freed as often as in the old table.
-/

import Connectivity.Proofs.Names

namespace Connectivity

/-! ## Registers -/

theorem named?_eq_none {h : Handle} {past : List Registration}
    (hnew : ∀ mode access, .issued h mode access ∉ past) : named? h past = none := by
  induction past with
  | nil => rfl
  | cons x past ih =>
    have hpast := ih fun mode access hmem => hnew mode access (List.mem_cons_of_mem x hmem)
    cases x with
    | issued h' mode access =>
      have hne : h' ≠ h := by
        rintro rfl
        exact hnew mode access List.mem_cons_self
      rw [named?, if_neg hne, hpast]
    | revoked h' =>
      rw [named?, hpast, ite_self]

/-- Each handle was issued with the generation that its slot had. -/
def Stamped (past : List Registration) : Prop :=
  ∀ later h mode access earlier, past = later ++ .issued h mode access :: earlier →
    h.generation = UInt16.ofNat (timesFreed h.index earlier)

namespace Stamped

variable {past : List Registration} {h : Handle}

theorem nil : Stamped [] := by
  intro later h mode access earlier heq
  simp at heq

theorem revoked (hp : Stamped past) (h : Handle) : Stamped (.revoked h :: past) := by
  intro later h' mode access earlier heq
  obtain ⟨-, hcons⟩ | ⟨later', rfl, heq'⟩ := List.cons_eq_append_iff.mp heq
  · cases hcons
  · exact hp later' h' mode access earlier heq'

theorem issued (hp : Stamped past) (hg : h.generation = UInt16.ofNat (timesFreed h.index past)) (mode : Mode)
    (access : Access) : Stamped (.issued h mode access :: past) := by
  intro later h' mode' access' earlier heq
  obtain ⟨-, hcons⟩ | ⟨later', rfl, heq'⟩ := List.cons_eq_append_iff.mp heq
  · cases hcons
    exact hg
  · exact hp later' h' mode' access' earlier heq'

/-- A handle that two tables issued had its slot freed as often in one as in the other, up to the size of a
    generation. -/
theorem times_eq {past' later later' earlier earlier' : List Registration} {mode mode' : Mode}
    {access access' : Access} (hp : Stamped past) (hp' : Stamped past')
    (heq : past = later ++ .issued h mode access :: earlier)
    (heq' : past' = later' ++ .issued h mode' access' :: earlier') :
    timesFreed h.index earlier % 65536 = timesFreed h.index earlier' % 65536 := by
  have hsame := (hp later h mode access earlier heq).symm.trans (hp' later' h mode' access' earlier' heq')
  have hnat := congrArg UInt16.toNat hsame
  rwa [UInt16.toNat_ofNat', UInt16.toNat_ofNat'] at hnat

end Stamped

/-! ## Handles that are refused -/

/-- Why a handle that stands for nothing is refused. -/
def Roster.refusal (r : Roster) (h : Handle) : Error := if r.isSetUp then .unknownHandle h else .notInitialized

theorem Roster.enter_refused {r : Roster} (ht : r.slots.isSome = r.modes.isSome) {h : Handle}
    (hl : r.live? h = none) (isControl : Bool) : (r.enter h isControl).1 = .error (r.refusal h) := by
  unfold refusal isSetUp
  cases hs : r.slots with
  | none =>
    have hm : r.modes.isSome = false := by
      rw [← ht, hs]
      rfl
    rw [hm]
    simp [enter, hs]
  | some slots =>
    have hm : r.modes.isSome = true := by
      rw [← ht, hs]
      rfl
    rw [hm]
    exact (enter_unknown_iff hs h isControl).mpr hl

namespace ControlPlane

open Roster

variable {σ τ α : Type} (M : ControlPlane σ τ)

/-- Every call through the handle is refused and changes nothing. -/
structure Refuses (h : Handle) (s : State σ τ) : Prop where
  revoke : revokeHandle h s =
    (.error (if s.roster.locked then .resourceLockTimeout else s.roster.refusal h), s)
  start : ∀ source, M.start h source s = (.error (s.roster.refusal h), s)
  stop : M.stop h s = (.error (s.roster.refusal h), s)
  flags : ControlPlane.flags h s = (.error (s.roster.refusal h), s)
  snapshot : ControlPlane.snapshot h s = (.error (s.roster.refusal h), s)
  rssi : M.rssi h s = (.error (s.roster.refusal h), s)
  netstat : M.netstat h s = (.error (s.roster.refusal h), s)
  listen : ControlPlane.listen h s = (.error (s.roster.refusal h), s)
  unlisten : ControlPlane.unlisten h s = (.error (s.roster.refusal h), s)

variable {M} {s : State σ τ} {past : List Registration} {h : Handle}

theorem withMode_refused {isControl : Bool} {err : Error} (hx : (s.roster.enter h isControl).1 = .error err)
    (run : ModeState → Operation σ τ α) : withMode h isControl run s = (.error err, s) := by
  unfold withMode withHandle
  cases hy : s.roster.enter h isControl with
  | mk answer roster =>
    rw [hy] at hx
    obtain rfl : answer = .error err := hx
    rfl

theorem revokeHandle_refused (ht : s.roster.slots.isSome = s.roster.modes.isSome) (hl : s.roster.live? h = none) :
    revokeHandle h s = (.error (if s.roster.locked then .resourceLockTimeout else s.roster.refusal h), s) := by
  unfold revokeHandle lock
  split <;> rename_i hx
  · split at hx
    · rename_i hlocked
      cases hx
      rw [if_pos hlocked]
    · rename_i hlocked
      split at hx <;> cases hx
      rename_i hm
      rw [if_neg hlocked, refusal, isSetUp, hm]
      rfl
  · rename_i modes
    split at hx
    · cases hx
    · rename_i hlocked
      split at hx <;> cases hx
      rename_i hm
      obtain ⟨slots, hs⟩ := Option.isSome_iff_exists.mp (ht.trans (congrArg Option.isSome hm))
      have hunknown : (s.roster.revoke h modes).1 = _ := (revoke_unknown_iff hs h modes).mpr hl
      have hsame : (s.roster.revoke h modes).2 = s.roster := by
        rcases revoke_cases h modes s.roster with ⟨err, hx⟩ | ⟨_, _, -, -, -, -, hx⟩
        · rw [hx]
        · rw [hx] at hunknown
          cases hunknown
      rw [if_neg hlocked, refusal, isSetUp, hm, Option.isSome_some, if_pos rfl, ← hunknown]
      simp only [hsame]

theorem refuses_of_unnamed (hr : Enrolled s.roster past) (hn : named? h past = none) : M.Refuses h s := by
  have hl : s.roster.live? h = none := by
    rw [← hr.named] at hn
    exact Option.map_eq_none_iff.mp hn
  have hcall {α : Type} (isControl : Bool) (run : ModeState → Operation σ τ α) :
      withMode h isControl run s = (.error (s.roster.refusal h), s) :=
    withMode_refused (enter_refused hr.together hl isControl) run
  exact ⟨revokeHandle_refused hr.together hl, fun _ => hcall true _, hcall true _, hcall false _, hcall false _,
    hcall false _, hcall false _, hcall false _, hcall false _⟩

/-! ## Moves -/

variable (M) in
/-- The register after a move. It begins anew when the table is released. -/
def register (s : State σ τ) (past : List Registration) : Move σ τ → List Registration
  | .dissolve =>
    match (M.dissolve s).1 with
    | .ok _ => []
    | .error _ => past
  | .issue mode access =>
    match (issueHandle mode access s).1 with
    | .ok h => .issued h mode access :: past
    | .error _ => past
  | .revoke h =>
    match (revokeHandle h s).1 with
    | .ok _ => .revoked h :: past
    | .error _ => past
  | _ => past

variable (M) in
/-- A move, and what it writes into the register. -/
def enrol (x : State σ τ × List Registration) (mv : Move σ τ) : State σ τ × List Registration :=
  (M.step mv x.1, M.register x.1 x.2 mv)

theorem enrolled_setUp (hr : Enrolled s.roster past) : Enrolled (M.setUp s).2.roster past := by
  rcases roster_setUp (M := M) s with h | ⟨interfaces, h | ⟨hm, h⟩⟩ <;> rw [h]
  · exact hr
  · exact hr.setUp M.memory interfaces
  · -- The table was made and released again, and nothing was issued between.
    have hnew := hr.setUp M.memory interfaces
    rcases dissolve_cases (s.roster.setUp M.memory interfaces).2 with ⟨err, hx⟩ | ⟨modes, hx, -⟩ <;> rw [hx]
    · exact hnew
    · rw [hr.empty (slots_eq_none hr.together hm)]
      exact .new rfl rfl hnew.fits

theorem enrolled_dissolve (hr : Enrolled s.roster past) (hok : (M.dissolve s).1 = .ok ()) :
    Enrolled (M.dissolve s).2.roster [] := by
  rw [roster_dissolve]
  unfold dissolve at hok
  rcases dissolve_cases s.roster with ⟨err, hx⟩ | ⟨modes, hx, -⟩ <;> rw [hx] at hok ⊢
  · cases hok
  · exact .new rfl rfl hr.fits

/-- Every move keeps the table to its register. -/
theorem enrolled_step (ha : Accounted s.roster []) (hr : Enrolled s.roster past) (hp : Stamped past)
    (mv : Move σ τ) : Enrolled (M.step mv s).roster (M.register s past mv) ∧ Stamped (M.register s past mv) := by
  by_cases hc : mv.isClerical = false
  · have hsame : M.register s past mv = past := by
      cases mv <;> first | rfl | cases hc
    have h := untouched_step (M := M) ha (by decide) hc
    rw [hsame]
    exact ⟨hr.of_slots h.slots h.modes h.quota, hp⟩
  cases mv with
  | setUp => exact ⟨enrolled_setUp hr, hp⟩
  | dissolve =>
    simp only [step, register]
    split
    · exact ⟨enrolled_dissolve hr ‹_›, .nil⟩
    · rename_i err hx
      have hsame : (M.dissolve s).2 = s := dissolve_refused (by rw [hx]; nofun)
      rw [hsame]
      exact ⟨hr, hp⟩
  | issue mode access =>
    simp only [step, register, issueHandle]
    rcases issue_cases mode access s.roster with ⟨err, hx⟩ | ⟨_, _, _, -, -, -, hx⟩
    · rw [hx]
      exact ⟨hr, hp⟩
    · obtain ⟨-, hg, hnew⟩ := hr.issue hx
      rw [hx]
      exact ⟨hnew, hp.issued hg mode access⟩
  | revoke h =>
    simp only [step, register, revokeHandle]
    split
    · exact ⟨hr, hp⟩
    · rename_i modes _
      rcases revoke_cases h modes s.roster with ⟨err, hx⟩ | ⟨_, _, -, -, -, -, hx⟩
      · rw [hx]
        exact ⟨hr, hp⟩
      · have hnew := hr.revoke hx
        rw [hx]
        exact ⟨hnew, hp.revoked h⟩
  | _ => exact absurd rfl hc

theorem enrolled_run (mvs : List (Move σ τ)) {x : State σ τ × List Registration} (ha : Accounted x.1.roster [])
    (hr : Enrolled x.1.roster x.2) (hp : Stamped x.2) :
    let y := mvs.foldl M.enrol x
    y.1 = M.run mvs x.1 ∧ Accounted y.1.roster [] ∧ Enrolled y.1.roster y.2 ∧ Stamped y.2 := by
  induction mvs generalizing x with
  | nil => exact ⟨rfl, ha, hr, hp⟩
  | cons mv mvs ih =>
    obtain ⟨hr', hp'⟩ := enrolled_step (M := M) ha hr hp mv
    exact ih (x := M.enrol x mv) (accounted_step ha (by decide) mv).1 hr' hp'

/-- Whatever was done before a dissolution and whatever is done after it, with new set-ups and more
    dissolutions: a handle that was not issued again since is refused by every call, which changes nothing.
    While there is a table, names stand for what that table issued. And a handle that an earlier table
    issued is issued again only where its slot was freed as often, up to the size of a generation. -/
theorem run_lifetimes (env : Env σ) (store : τ) (before after : List (Move σ τ)) :
    let x := before.foldl M.enrol (M.initial env store, [])
    (M.dissolve x.1).1 = .ok () →
    let y := after.foldl M.enrol ((M.dissolve x.1).2, [])
    y.1 = M.run (before ++ .dissolve :: after) (M.initial env store) ∧
    (∀ h, (∀ mode access, .issued h mode access ∉ y.2) → M.Refuses h y.1) ∧
    (y.1.roster.isSetUp = true → Names y.1.roster y.2) ∧
    ∀ h mode access later earlier mode' access' later' earlier',
      x.2 = later ++ .issued h mode access :: earlier → y.2 = later' ++ .issued h mode' access' :: earlier' →
      timesFreed h.index earlier % 65536 = timesFreed h.index earlier' % 65536 := by
  intro x hd y
  have hfits : (M.initial env store).roster.quota.total ≤ Policy.tableMax := Policy.total_budget_le M.valid
  obtain ⟨hx, ha, hr, hp⟩ := enrolled_run (M := M) before (x := (M.initial env store, []))
    (.empty rfl rfl) (.new rfl rfl hfits) .nil
  have ha' : Accounted (M.dissolve x.1).2.roster [] := (accounted_step ha (by decide) .dissolve).1
  obtain ⟨hy, -, hr', hp'⟩ := enrolled_run (M := M) after (x := ((M.dissolve x.1).2, []))
    ha' (enrolled_dissolve hr hd) .nil
  refine ⟨?_, fun h hnew => refuses_of_unnamed hr' (named?_eq_none hnew), .of_enrolled hr', ?_⟩
  · rw [hy, run, run, List.foldl_append, List.foldl_cons]
    exact congrArg (fun s => after.foldl _ (M.dissolve s).2) hx
  · intro h mode access later earlier mode' access' later' earlier' heq heq'
    exact hp.times_eq hp' heq heq'

end ControlPlane

namespace Camera

open Simulation ControlPlane

/-- A handle of an earlier table is accepted by the next one, which has issued it for something else. -/
theorem an_old_handle_stands_for_a_new_one :
    ¬ ∀ (before after : List (Move Board Shelf)) (h : Handle) (mode : Mode) (access : Access),
      let x := before.foldl plane.enrol (off, [])
      (plane.dissolve x.1).1 = .ok () →
      let y := after.foldl plane.enrol ((plane.dissolve x.1).2, [])
      (∀ i, timesFreed i x.2 < 65536) → (∀ i, timesFreed i y.2 < 65536) →
      .issued h mode access ∈ x.2 → plane.Refuses h y.1 := by
  intro hrefused
  let before : List (Move Board Shelf) := [.setUp, .issue .normal .control]
  let after : List (Move Board Shelf) := [.setUp, .issue .accessPoint .information]
  have hx : (before.foldl plane.enrol (off, [])).2 = [.issued normal .normal .control] := by decide +kernel
  have hy : (after.foldl plane.enrol ((plane.dissolve (before.foldl plane.enrol (off, [])).1).2, [])).2 =
      [.issued normal .accessPoint .information] := by decide +kernel
  have h := hrefused before after normal .normal .control (by decide +kernel)
    (by rw [hx]; simp [timesFreed, Registration.frees]) (by rw [hy]; simp [timesFreed, Registration.frees])
    (by rw [hx]; exact List.mem_cons_self)
  have hmode := congrArg (fun x => x.1.toOption.map (·.mode)) h.snapshot
  have haccepted : (ControlPlane.snapshot normal
      (after.foldl plane.enrol ((plane.dissolve (before.foldl plane.enrol (off, [])).1).2, [])).1).1.toOption.map
        (·.mode) = some .accessPoint := by decide +kernel
  cases haccepted.symm.trans hmode

/-- The normal mode's first handle was revoked, and another took its slot; after the dissolution each of
    the modes gets one. -/
theorem renewed_lifetimes :
    let before : List (Move Board Shelf) :=
      [.setUp, .issue .normal .control, .revoke normal, .issue .normal .control, .issue .accessPoint .control]
    let after : List (Move Board Shelf) := [.setUp, .issue .normal .control]
    let x := before.foldl plane.enrol (off, [])
    let y := after.foldl plane.enrol ((plane.dissolve x.1).2, [])
    (plane.dissolve x.1).1 = .ok () ∧
    y.1 = plane.run (before ++ .dissolve :: after) off ∧
    (∀ h, (∀ mode access, .issued h mode access ∉ y.2) → plane.Refuses h y.1) ∧
    (y.1.roster.isSetUp = true → Names y.1.roster y.2) ∧
    ∀ h mode access later earlier mode' access' later' earlier',
      x.2 = later ++ .issued h mode access :: earlier → y.2 = later' ++ .issued h mode' access' :: earlier' →
      timesFreed h.index earlier % 65536 = timesFreed h.index earlier' % 65536 := by
  intro before after x y
  have hd : (plane.dissolve x.1).1 = .ok () := by decide +kernel
  exact ⟨hd, run_lifetimes _ _ before after hd⟩

end Camera

end Connectivity
