/-
  Connectivity.Proofs.Guards — guards on handles are counted, and at most one a mode is for control.
  - `Accounted`: what the table of handles says about the guards that are out. Each act keeps it, as
    long as there are fewer guards than a count can tell apart (`Accounted.enter`, `Accounted.exit`, …).
  - `accounted_step`: a call of the control plane takes a guard and gives it back, so it returns with
    every count as it found it.
  - `Custody`: a roster with the guards that are out. They are taken and given back in any order, and
    between that handles are made and taken back, the roster is set up and dissolved, and calls are made.
-/

import Connectivity.Proofs.Moves
import Connectivity.Proofs.Slots

namespace Connectivity

/-! ## Accounts -/

namespace Guard

/-- The guard is on the handle in a slot. -/
def on (i : Nat) (g : Guard) : Bool := g.handle.index = i

/-- The guard is for control of a mode. -/
def controls (mode : Mode) (g : Guard) : Bool := g.mode = mode && g.isControl

end Guard

/-- What the table says about the guards that are out. A handle's count is the number of guards on it,
    it is in use for control if one of them is for control, and no mode has two of those. Each guard is
    on a handle that lives. -/
structure Accounted (r : Roster) (guards : List Guard) : Prop where
  together : r.slots.isSome = r.modes.isSome
  count : ∀ i e, r.at? i = some e → e.count.toNat = guards.countP (Guard.on i)
  control : ∀ i e, r.at? i = some e →
    (e.inControl = true ↔ 0 < guards.countP fun g => g.on i && g.isControl)
  held : ∀ g ∈ guards, ∃ e, r.live? g.handle = some e ∧ g.mode = e.mode ∧
    (g.isControl = true → e.access = .control)
  exclusive : ∀ mode, guards.countP (Guard.controls mode) ≤ 1

namespace Accounted

open Roster

variable {r r' : Roster} {guards : List Guard} {h : Handle} {e : Entry}

theorem empty (hs : r.slots = none) (hm : r.modes = none) : Accounted r [] where
  together := by rw [hs, hm]; rfl
  count i e he := by simp [at?, slot?, hs] at he
  control i e he := by simp [at?, slot?, hs] at he
  held g hg := by cases hg
  exclusive mode := Nat.zero_le 1

/-- What the guards say about a handle alone. -/
theorem on_iff (ha : Accounted r guards) (he : r.live? h = some e) {g : Guard} (hg : g ∈ guards) :
    g.on h.index = true ↔ g.handle = h := by
  obtain ⟨e', he', -⟩ := ha.held g hg
  rw [Guard.on, decide_eq_true_eq]
  constructor
  · intro hi
    exact handle_eq_of_live? he' he hi
  · rintro rfl
    rfl

theorem count_pos (ha : Accounted r guards) {g : Guard} (hg : g ∈ guards) :
    ∃ slots e, r.slots = some slots ∧ r.live? g.handle = some e ∧ 0 < e.count.toNat := by
  obtain ⟨e, he, -⟩ := ha.held g hg
  cases hs : r.slots with
  | none => simp [live?, hs] at he
  | some slots =>
    refine ⟨slots, e, rfl, he, ?_⟩
    rw [ha.count _ e (at?_of_live? he), List.countP_pos_iff]
    exact ⟨g, hg, by simp [Guard.on]⟩

/-- No guard is out for control of a mode exactly if no handle of it is in use for control. -/
theorem idle_iff (ha : Accounted r guards) (mode : Mode) :
    r.Idle mode ↔ ∀ g ∈ guards, g.controls mode = false := by
  constructor
  · intro hidle g hg
    obtain ⟨e, he, hm, -⟩ := ha.held g hg
    by_contra hc
    simp only [Guard.controls, Bool.and_eq_false_iff, not_or, Bool.not_eq_false, decide_eq_true_eq] at hc
    have hat := at?_of_live? he
    have hin : e.inControl = true := by
      rw [ha.control _ e hat, List.countP_pos_iff]
      exact ⟨g, hg, by simp [Guard.on, hc.2]⟩
    rw [hidle _ e hat (hm ▸ hc.1)] at hin
    cases hin
  · intro hout i e he hm
    by_contra hin
    rw [Bool.not_eq_false, ha.control i e he, List.countP_pos_iff] at hin
    obtain ⟨g, hg, hon⟩ := hin
    simp only [Guard.on, Bool.and_eq_true, decide_eq_true_eq] at hon
    obtain ⟨e', he', hm', -⟩ := ha.held g hg
    have hat := at?_of_live? he'
    rw [hon.1, he] at hat
    obtain rfl : e = e' := Option.some.inj hat
    have := hout g hg
    simp [Guard.controls, hm', hm, hon.2] at this

/-- A handle's entry and the guards on it change together. -/
theorem setEntry (ha : Accounted r guards) {slots : List Slot} (hs : r.slots = some slots)
    (he : r.live? h = some e) {e' : Entry} {guards' : List Guard} (hm : e'.mode = e.mode)
    (haccess : e'.access = e.access) (hcount : e'.count.toNat = guards'.countP (Guard.on h.index))
    (hcontrol : e'.inControl = true ↔ 0 < guards'.countP fun g => g.on h.index && g.isControl)
    (hrest : ∀ i, i ≠ h.index → ∀ q : Guard → Bool,
      guards'.countP (fun g => g.on i && q g) = guards.countP fun g => g.on i && q g)
    (hheld : ∀ g ∈ guards', g ∈ guards ∨
      g.handle = h ∧ g.mode = e.mode ∧ (g.isControl = true → e.access = .control))
    (hexclusive : ∀ mode, guards'.countP (Guard.controls mode) ≤ 1) :
    Accounted { r with slots := some (Roster.setEntry slots h.index e') } guards' := by
  obtain ⟨slot, hslot, -⟩ := live?_eq_some.mp he
  have hat := at?_setEntry hs hslot e'
  refine ⟨?_, ?_, ?_, ?_, hexclusive⟩
  · rw [← ha.together, hs]
    rfl
  · intro i e₀ he₀
    rw [hat] at he₀
    by_cases hi : h.index = i
    · subst hi
      rw [if_pos rfl] at he₀
      cases he₀
      exact hcount
    · rw [if_neg hi] at he₀
      have hsame := hrest i (Ne.symm hi) fun _ => true
      simp only [Bool.and_true] at hsame
      rw [ha.count i e₀ he₀]
      exact hsame.symm
  · intro i e₀ he₀
    rw [hat] at he₀
    by_cases hi : h.index = i
    · subst hi
      rw [if_pos rfl] at he₀
      cases he₀
      exact hcontrol
    · rw [if_neg hi] at he₀
      rw [ha.control i e₀ he₀, hrest i (Ne.symm hi)]
  · intro g hg
    rw [live?_setEntry hs he]
    by_cases hh : h = g.handle
    · refine ⟨e', if_pos hh, ?_⟩
      rw [hm, haccess]
      rcases hheld g hg with hold | ⟨-, hnew⟩
      · obtain ⟨e₀, he₀, hg₀⟩ := ha.held g hold
        rw [← hh, he] at he₀
        cases he₀
        exact hg₀
      · exact hnew
    · rw [if_neg hh]
      rcases hheld g hg with hold | ⟨hnew, -⟩
      · exact ha.held g hold
      · exact absurd hnew.symm hh

/-- A guard is taken. -/
theorem enter (ha : Accounted r guards) (hfew : guards.length + 1 < 2 ^ 32) {isControl : Bool} {g : Guard}
    (hx : r.enter h isControl = (.ok g, r')) : Accounted r' (g :: guards) := by
  obtain ⟨slots, e, hs, he, hc, rfl, rfl⟩ := enter_ok hx
  have hat := at?_of_live? he
  have hcount := ha.count _ e hat
  have hcontrol := ha.control _ e hat
  have hle : guards.countP (Guard.on h.index) ≤ guards.length := List.countP_le_length
  refine ha.setEntry hs he rfl rfl ?_ ?_ ?_ ?_ ?_
  · rw [List.countP_cons]
    simp only [entered, UInt32.toNat_add, UInt32.toNat_one, Guard.on, decide_true, if_true] at hle hcount ⊢
    omega
  · rw [List.countP_cons]
    simp only [entered, Bool.or_eq_true, hcontrol, Guard.on, decide_true, Bool.true_and]
    cases isControl with
    | false => simp
    | true => simp
  · intro i hi q
    rw [List.countP_cons]
    simp [Guard.on, Ne.symm hi]
  · intro g hg
    rcases List.mem_cons.mp hg with rfl | hg
    · exact .inr ⟨rfl, rfl, fun hctrl => (hc hctrl).1⟩
    · exact .inl hg
  · intro mode
    rw [List.countP_cons]
    by_cases hg : Guard.controls mode ⟨h, e.mode, e.access, isControl⟩ = true
    · simp only [Guard.controls, Bool.and_eq_true, decide_eq_true_eq] at hg
      have hnone : guards.countP (Guard.controls mode) = 0 := by
        rw [List.countP_eq_zero]
        intro g' hg'
        have hidle := (hc hg.2).2
        rw [hg.1] at hidle
        rw [(ha.idle_iff mode).mp hidle g' hg']
        exact Bool.false_ne_true
      rw [hnone]
      split <;> omega
    · rw [if_neg hg]
      exact ha.exclusive mode

/-- A guard that is out can be given back. -/
theorem exit (ha : Accounted r guards) {g : Guard} (hg : g ∈ guards) :
    ∃ r', r.exit g = .ok r' ∧ Accounted r' (guards.erase g) := by
  obtain ⟨slots, e, hs, he, hpos⟩ := ha.count_pos hg
  refine ⟨_, exit_eq_ok hs he hpos, ?_⟩
  have hat := at?_of_live? he
  have hcount := ha.count _ e hat
  have hcontrol := ha.control _ e hat
  obtain ⟨e₀, he₀, hmode, -⟩ := ha.held g hg
  obtain rfl : e = e₀ := Option.some.inj (he.symm.trans he₀)
  -- The guards are `g` and the others.
  have hsplit (q : Guard → Bool) : guards.countP q = (guards.erase g).countP q + if q g then 1 else 0 := by
    rw [(List.perm_cons_erase hg).countP_eq q, List.countP_cons]
  refine ha.setEntry hs he rfl rfl ?_ ?_ ?_ ?_ ?_
  · have hone := hsplit (Guard.on g.handle.index)
    have hle : (1 : UInt32) ≤ e.count := hpos
    simp only [exited, UInt32.toNat_sub_of_le _ _ hle, UInt32.toNat_one]
    simp only [Guard.on, decide_true, if_true] at hone hcount ⊢
    omega
  · have hone := hsplit fun g' => g'.on g.handle.index && g'.isControl
    have hself : g.on g.handle.index = true := decide_eq_true rfl
    rw [hself, Bool.true_and] at hone
    simp only [exited, Bool.and_eq_true, hcontrol, hone]
    cases hc : g.isControl with
    | false => simp only [Bool.false_eq_true, if_false, Nat.add_zero, Bool.not_false, and_true]
    | true =>
      -- No other guard is for control of its mode, let alone of its handle.
      have hmost := ha.exclusive g.mode
      rw [hsplit, if_pos (by simp [Guard.controls, hc])] at hmost
      have hnone : (guards.erase g).countP (Guard.controls g.mode) = 0 := by omega
      rw [List.countP_eq_zero] at hnone
      have hfree : (guards.erase g).countP (fun g' => g'.on g.handle.index && g'.isControl) = 0 := by
        rw [List.countP_eq_zero]
        intro g' hg' hon
        simp only [Guard.on, Bool.and_eq_true, decide_eq_true_eq] at hon
        obtain ⟨e', he', hmode', -⟩ := ha.held g' (List.mem_of_mem_erase hg')
        have hat' := at?_of_live? he'
        rw [hon.1, hat] at hat'
        cases hat'
        exact hnone g' hg' (by simp [Guard.controls, hmode, hmode', hon.2])
      rw [hfree]
      simp
  · intro i hi q
    have hone := hsplit fun g' => g'.on i && q g'
    rw [hone]
    simp [Guard.on, Ne.symm hi]
  · intro g' hg'
    exact .inl (List.mem_of_mem_erase hg')
  · intro mode
    have hmost := ha.exclusive mode
    rw [hsplit] at hmost
    omega

/-! ## Handles made and taken back -/

theorem of_slots (ha : Accounted r guards) (hs : r'.slots = r.slots) (hm : r'.modes.isSome = r.modes.isSome) :
    Accounted r' guards where
  together := by rw [hs, hm, ha.together]
  count i e he := ha.count i e (at?_congr hs i ▸ he)
  control i e he := ha.control i e (at?_congr hs i ▸ he)
  held g hg := live?_congr hs g.handle ▸ ha.held g hg
  exclusive := ha.exclusive

theorem of_not_on {i : Nat} (hi : guards.countP (Guard.on i) = 0) {g : Guard} (hg : g ∈ guards) :
    g.handle.index ≠ i := by
  rw [List.countP_eq_zero] at hi
  intro hon
  exact hi g hg (decide_eq_true hon)

/-- A slot that no guard is on may change to one that is not in use. -/
theorem modify (ha : Accounted r guards) {slots : List Slot} (hs : r.slots = some slots) {i : Nat}
    (hi : guards.countP (Guard.on i) = 0) {f : Slot → Slot}
    (hf : ∀ slot e, (f slot).entry = some e → e.count = 0 ∧ e.inControl = false) :
    Accounted { r with slots := some (slots.modify i f) } guards := by
  have hslot := slot?_modify hs i f
  have hat {j : Nat} (hj : i ≠ j) : ({ r with slots := some (slots.modify i f) } : Roster).at? j = r.at? j := by
    rw [at?, hslot, if_neg hj, at?]
  have hfree {e : Entry} (he : ({ r with slots := some (slots.modify i f) } : Roster).at? i = some e) :
      e.count = 0 ∧ e.inControl = false := by
    rw [at?, hslot, if_pos rfl] at he
    obtain ⟨slot, hmap, he⟩ := Option.bind_eq_some_iff.mp he
    obtain ⟨slot₀, -, rfl⟩ := Option.map_eq_some_iff.mp hmap
    exact hf slot₀ e he
  refine ⟨?_, ?_, ?_, ?_, ha.exclusive⟩
  · rw [← ha.together, hs]
    rfl
  · intro j e he
    by_cases hj : i = j
    · subst hj
      rw [hi, (hfree he).1]
      rfl
    · exact ha.count j e (hat hj ▸ he)
  · intro j e he
    by_cases hj : i = j
    · subst hj
      have hle : guards.countP (fun g => g.on i && g.isControl) ≤ guards.countP (Guard.on i) := by
        apply List.countP_mono_left
        intro g _ hg
        exact (Bool.and_eq_true_iff.mp hg).1
      rw [(hfree he).2]
      simp only [Bool.false_eq_true, false_iff]
      omega
    · rw [hat hj] at he
      exact ha.control j e he
  · intro g hg
    have hne := of_not_on hi hg
    rw [live?_eq, hslot, if_neg (Ne.symm hne), ← live?_eq]
    exact ha.held g hg

theorem issue (ha : Accounted r guards) (mode : Mode) (access : Access) :
    Accounted (r.issue mode access).2 guards := by
  rcases issue_cases mode access r with ⟨err, hx⟩ | ⟨slots, i, slot, hs, hslot, hfree, hx⟩
  · rw [hx]
    exact ha
  · rw [hx]
    refine ha.modify hs ?_ ?_
    · rw [List.countP_eq_zero]
      intro g hg hon
      obtain ⟨e, he, -⟩ := ha.held g hg
      have hat := at?_of_live? he
      rw [decide_eq_true_eq.mp hon, at?, hslot, Option.bind_some, hfree] at hat
      cases hat
    · rintro slot e ⟨⟩
      exact ⟨rfl, rfl⟩

theorem revoke (ha : Accounted r guards) (h : Handle) (modes : Modes) :
    Accounted (r.revoke h modes).2 guards := by
  rcases revoke_cases h modes r with ⟨err, hx⟩ | ⟨slots, e, hs, he, hc, -, hx⟩
  · rw [hx]
    exact ha
  · rw [hx]
    refine ha.modify hs ?_ fun slot e' he' => ?_
    · rw [← ha.count _ e (at?_of_live? he), hc]
      rfl
    · cases he'

/-- Where no handle is in use no guard is out. -/
theorem eq_nil (ha : Accounted r guards) (hfree : ∀ i e, r.at? i = some e → e.count = 0) : guards = [] := by
  rw [List.eq_nil_iff_forall_not_mem]
  intro g hg
  obtain ⟨slots, e, -, he, hpos⟩ := ha.count_pos hg
  rw [hfree _ e (at?_of_live? he)] at hpos
  exact absurd hpos (by decide)

theorem setUp (ha : Accounted r guards) (memory : Memory) (interfaces : List Interface) :
    Accounted (r.setUp memory interfaces).2 guards := by
  rcases setUp_cases memory interfaces r with ⟨-, hsame⟩ | ⟨modes, hm, hx⟩
  · rw [hsame]
    exact ha
  · have hs := slots_eq_none ha.together hm
    have hnil : guards = [] := ha.eq_nil fun i e he => by simp [at?, slot?, hs] at he
    have hnone (i : Nat) : (r.setUp memory interfaces).2.at? i = none := by
      simp only [hx, at?, slot?, Option.bind_some, List.getElem?_replicate]
      split <;> rfl
    subst hnil
    refine ⟨by rw [hx]; rfl, ?_, ?_, fun _ hg => (by cases hg), fun _ => Nat.zero_le 1⟩
    · intro i e he
      rw [hnone] at he
      cases he
    · intro i e he
      rw [hnone] at he
      cases he

theorem dissolve (ha : Accounted r guards) : Accounted r.dissolve.2 guards := by
  rcases dissolve_cases r with ⟨err, h⟩ | ⟨modes, h, hfree⟩
  · rw [h]
    exact ha
  · rw [h, ha.eq_nil hfree]
    exact .empty rfl rfl

end Accounted

/-! ## Moves of the control plane -/

namespace ControlPlane

open Roster

variable {σ τ α : Type} {M : ControlPlane σ τ} {s s' : State σ τ} {guards : List Guard}

/-- The table and its size are the same, and there are modes if there were. -/
structure Untouched (s s' : State σ τ) : Prop where
  slots : s'.roster.slots = s.roster.slots
  modes : s'.roster.modes.isSome = s.roster.modes.isSome
  quota : s'.roster.quota = s.roster.quota

theorem Untouched.of_roster (h : s'.roster = s.roster) : Untouched s s' :=
  ⟨congrArg _ h, congrArg (·.modes.isSome) h, congrArg _ h⟩

theorem Untouched.of_modes {f : Modes → Modes} (h : s'.roster = { s.roster with modes := s.roster.modes.map f }) :
    Untouched s s' := by
  refine ⟨?_, ?_, ?_⟩ <;> rw [h]
  exact Option.isSome_map

theorem Untouched.trans {s'' : State σ τ} (h : Untouched s s') (h' : Untouched s' s'') : Untouched s s'' :=
  ⟨h'.slots.trans h.slots, h'.modes.trans h.modes, h'.quota.trans h.quota⟩

theorem untouched_update (s : State σ τ) (mode : Mode) (x : ModeState × Env σ) : Untouched s (s.update mode x) :=
  .of_modes rfl

theorem untouched_tell (s : State σ τ) (mode : Mode) : Untouched s (s.tell mode) := by
  unfold State.tell
  split
  · exact .of_roster rfl
  · exact .of_modes rfl

theorem untouched_react (name : String) (event : Event) (mode : Mode) (s : State σ τ) :
    Untouched s (M.react name event mode s) := by
  unfold react
  split
  · exact .of_roster rfl
  · split
    · exact (untouched_update s mode _).trans (untouched_tell _ mode)
    · exact .of_roster rfl

theorem untouched_receive (name : String) (event : Event) (s : State σ τ) :
    Untouched s (M.receive name event s) := by
  by_cases he : event = .ifDownPre
  · subst he
    exact .of_modes (roster_receive_ifDownPre s name)
  · rw [receive_eq_react he]
    exact (untouched_react name event .normal s).trans (untouched_react name event .accessPoint _)

theorem untouched_bringUp (m : ModeState) (kind : InterfaceKind) (p : Parameters) (s : State σ τ) :
    Untouched s (M.bringUp m kind p s).2 := by
  unfold bringUp
  split
  · exact untouched_update s _ _
  · exact (untouched_update s _ _).trans (untouched_tell _ _)

theorem untouched_prepareStop (m : ModeState) (s : State σ τ) : Untouched s (M.prepareStop m s) := by
  have hroster := roster_prepareStop (M := M) m s
  rw [roster_announced] at hroster
  refine ⟨?_, ?_, ?_⟩
  · rw [hroster, slots_yield]
  · rw [hroster, modes_yield]
    exact Option.isSome_map
  · rw [hroster, quota_yield]

theorem untouched_takeDown (mode : Mode) (s : State σ τ) : Untouched s (M.takeDown mode s).2 := by
  unfold takeDown
  split
  · exact .of_roster rfl
  · exact (untouched_update s mode _).trans (untouched_tell _ mode)

/-- The guard that a call takes is given back, whatever comes of the call. -/
theorem untouched_withMode (ha : Accounted s.roster guards) (hfew : guards.length + 1 < 2 ^ 32) {h : Handle}
    {isControl : Bool} {run : ModeState → Operation σ τ α} (hrun : ∀ m s', Untouched s' (run m s').2) :
    Untouched s (withMode h isControl run s).2 := by
  have hcount (e : Entry) (he : s.roster.live? h = some e) : e.count.toNat + 1 < 2 ^ 32 := by
    have hle : guards.countP (Guard.on h.index) ≤ guards.length := List.countP_le_length
    rw [ha.count _ e (at?_of_live? he)]
    omega
  have hmodes := modes_enter h isControl s.roster
  unfold withMode withHandle
  cases hx : s.roster.enter h isControl with
  | mk answer roster =>
    rw [hx] at hmodes
    cases answer with
    | error err => exact .of_roster rfl
    | ok g =>
      have hleft {s' : State σ τ} (h : Untouched { s with roster } s') :
          Untouched s { s' with roster := s'.roster.leave g } := by
        refine ⟨slots_leave hx hcount h.slots, ?_, ?_⟩
        · rw [modes_leave, h.modes]
          exact congrArg Option.isSome hmodes
        · rw [quota_leave, h.quota]
          exact quota_enter hx
      simp only
      split
      · exact hleft (.of_roster rfl)
      · exact hleft (hrun (Modes.get ‹_› g.mode) { s with roster })

theorem untouched_start (ha : Accounted s.roster guards) (hfew : guards.length + 1 < 2 ^ 32) (h : Handle)
    (source : ParameterSource) : Untouched s (M.start h source s).2 := by
  refine untouched_withMode ha hfew fun m s' => ?_
  split
  · exact .of_roster rfl
  · obtain ⟨hroster, -⟩ : _ ∧ M.Leads false s'.view _ := resolve_leads m source s'
    split <;> rename_i hx <;> rw [hx] at hroster
    · exact .of_roster hroster
    · split
      · exact .of_roster hroster
      · exact (Untouched.of_roster hroster).trans (untouched_bringUp _ _ _ _)

theorem untouched_stop (ha : Accounted s.roster guards) (hfew : guards.length + 1 < 2 ^ 32) (h : Handle) :
    Untouched s (M.stop h s).2 := by
  refine untouched_withMode ha hfew fun m s' => ?_
  split
  · exact (untouched_prepareStop m s').trans (untouched_takeDown _ _)
  · exact .of_roster rfl

theorem roster_setUp (s : State σ τ) :
    (M.setUp s).2.roster = s.roster ∨
    ∃ interfaces, (M.setUp s).2.roster = (s.roster.setUp M.memory interfaces).2 ∨
      s.roster.modes = none ∧ (M.setUp s).2.roster = (s.roster.setUp M.memory interfaces).2.dissolve.2 := by
  unfold setUp
  split
  · exact .inl rfl
  · rename_i interfaces _ _
    refine .inr ⟨interfaces, ?_⟩
    split
    · rename_i hx
      rw [hx]
      exact .inl rfl
    · rename_i hx
      rw [hx]
      exact .inl rfl
    · rename_i hx
      rw [hx]
      split
      · exact .inl rfl
      · refine .inr ⟨(Roster.setUp_true hx).1, ?_⟩
        split <;> rename_i hd <;> rw [hd]

/-- A move that is about the table of handles, and not about a mode. -/
def Move.isClerical : Move σ τ → Bool
  | .setUp => true
  | .dissolve => true
  | .issue .. => true
  | .revoke _ => true
  | _ => false

theorem untouched_step (ha : Accounted s.roster guards) (hfew : guards.length + 1 < 2 ^ 32) {mv : Move σ τ}
    (hc : mv.isClerical = false) : Untouched s (M.step mv s) := by
  cases mv with
  | start h source => exact untouched_start ha hfew h source
  | stop h => exact untouched_stop ha hfew h
  | flags h => exact untouched_withMode ha hfew fun _ _ => .of_roster rfl
  | snapshot h => exact untouched_withMode ha hfew fun _ _ => .of_roster rfl
  | rssi h =>
    refine untouched_withMode ha hfew fun m s' => ?_
    split
    · split <;> exact .of_roster rfl
    · exact .of_roster rfl
  | netstat h =>
    refine untouched_withMode ha hfew fun m s' => ?_
    split
    · exact .of_roster rfl
    · split <;> exact .of_roster rfl
  | listen h =>
    refine untouched_withMode ha hfew fun m s' => ?_
    split
    · exact .of_roster rfl
    · exact untouched_update s' _ _
  | unlisten h =>
    refine untouched_withMode ha hfew fun m s' => ?_
    split
    · exact untouched_update s' _ _
    · exact .of_roster rfl
  | save mask p => exact .of_roster ((congrArg State.roster (saveParameters_frame mask p s)).trans rfl)
  | load mask p => exact .of_roster ((congrArg State.roster (loadParameters_frame mask p s)).trans rfl)
  | event name event => exact untouched_receive name event s
  | outside => exact .of_roster rfl
  | lock => exact ⟨rfl, rfl, rfl⟩
  | _ => cases hc

theorem roster_dissolve (s : State σ τ) : (M.dissolve s).2.roster = s.roster.dissolve.2 := by
  unfold dissolve
  split <;> rename_i hx <;> rw [hx]

theorem roster_revokeHandle (h : Handle) (s : State σ τ) :
    (revokeHandle h s).2.roster = s.roster ∨
    ∃ modes, s.roster.modes = some modes ∧ (revokeHandle h s).2.roster = (s.roster.revoke h modes).2 := by
  unfold revokeHandle
  split
  · exact .inl rfl
  · rename_i modes hlock
    exact .inr ⟨modes, (lock_eq_ok hlock).2, rfl⟩

/-- Every move returns with the guards that were out accounted for, and with the handles that lived
    before it and still live as they were. -/
theorem accounted_step (ha : Accounted s.roster guards) (hfew : guards.length + 1 < 2 ^ 32) (mv : Move σ τ) :
    Accounted (M.step mv s).roster guards ∧ Steady s.roster (M.step mv s).roster := by
  have hkept {s' : State σ τ} (h : Untouched s s') : Accounted s'.roster guards ∧ Steady s.roster s'.roster :=
    ⟨ha.of_slots h.slots h.modes, .of_slots h.slots⟩
  have hnone : s.roster.modes = none → s.roster.slots = none := slots_eq_none ha.together
  by_cases hc : mv.isClerical = false
  · exact hkept (untouched_step ha hfew hc)
  cases mv with
  | setUp =>
    have hsetUp (interfaces : List Interface) : Steady s.roster (s.roster.setUp M.memory interfaces).2 := by
      rcases Roster.setUp_cases M.memory interfaces s.roster with ⟨-, h⟩ | ⟨_, hm, -⟩
      · rw [h]
        exact .of_slots rfl
      · exact .of_none (.inl (hnone hm))
    rcases roster_setUp (M := M) s with h | ⟨interfaces, h | ⟨hm, h⟩⟩
    · exact hkept (.of_roster h)
    · have hstep : (M.step .setUp s).roster = _ := h
      rw [hstep]
      exact ⟨ha.setUp M.memory interfaces, hsetUp interfaces⟩
    · have hstep : (M.step .setUp s).roster = _ := h
      rw [hstep]
      exact ⟨(ha.setUp M.memory interfaces).dissolve, .of_none (.inl (hnone hm))⟩
  | dissolve =>
    have hstep : (M.step .dissolve s).roster = s.roster.dissolve.2 := roster_dissolve s
    rw [hstep]
    refine ⟨ha.dissolve, ?_⟩
    rcases dissolve_cases s.roster with ⟨err, h⟩ | ⟨modes, h, -⟩
    · rw [h]
      exact .of_slots rfl
    · rw [h]
      exact .of_none (.inr rfl)
  | issue mode access => exact ⟨ha.issue mode access, .issue mode access s.roster⟩
  | revoke h =>
    rcases roster_revokeHandle h s with hx | ⟨modes, -, hx⟩
    · exact hkept (.of_roster hx)
    · have hstep : (M.step (.revoke h) s).roster = (s.roster.revoke h modes).2 := hx
      rw [hstep]
      exact ⟨ha.revoke h modes, .revoke h modes s.roster⟩
  | _ => exact absurd rfl hc

end ControlPlane

/-! ## Custody -/

/-- A roster with the guards on its handles that are out. -/
structure Custody where
  roster : Roster
  guards : List Guard := []

namespace Custody

open Roster

/-- What can be done with a roster. The control plane also stores a mode's state in it. -/
inductive Act where
  | setUp (memory : Memory) (interfaces : List Interface)
  | dissolve
  | issue (mode : Mode) (access : Access)
  | revoke (h : Handle) (modes : Modes)
  | enter (h : Handle) (isControl : Bool)
  /-- A guard that is out is given back. -/
  | leave (g : Guard)
  | lock (held : Bool)
  | setMode (mode : Mode) (m : ModeState)

def act (c : Custody) : Act → Custody
  | .setUp memory interfaces => { c with roster := (c.roster.setUp memory interfaces).2 }
  | .dissolve => { c with roster := c.roster.dissolve.2 }
  | .issue mode access => { c with roster := (c.roster.issue mode access).2 }
  | .revoke h modes => { c with roster := (c.roster.revoke h modes).2 }
  | .enter h isControl =>
    match c.roster.enter h isControl with
    | (.ok g, roster) => { roster, guards := g :: c.guards }
    | (.error _, _) => c
  | .leave g => if g ∈ c.guards then { roster := c.roster.leave g, guards := c.guards.erase g } else c
  | .lock held => { c with roster := { c.roster with locked := held } }
  | .setMode mode m => { c with roster := c.roster.setMode mode m }

/-- What acts and calls lead to from a roster that was never set up, while no more guards are out than a
    count of 32 bits can tell apart. A call takes a guard of its own and has given it back when it
    returns. -/
inductive Reach (quota : Budget) : Custody → Prop
  | new : Reach quota { roster := { quota } }
  | act {c : Custody} (a : Act) : Reach quota c → (c.act a).guards.length < 2 ^ 32 → Reach quota (c.act a)
  | call {c : Custody} {σ τ : Type} (M : ControlPlane σ τ) (s : ControlPlane.State σ τ)
      (mv : ControlPlane.Move σ τ) :
      Reach quota c → s.roster = c.roster → c.guards.length + 1 < 2 ^ 32 →
      Reach quota { c with roster := (M.step mv s).roster }

/-- What can be relied on while guards are out. -/
structure Sound (c : Custody) : Prop where
  count : ∀ h e, c.roster.live? h = some e → e.count.toNat = c.guards.countP fun g => g.handle = h
  inControl : ∀ h e, c.roster.live? h = some e →
    (e.inControl = true ↔ ∃ g ∈ c.guards, g.handle = h ∧ g.isControl = true)
  exclusive : ∀ mode, c.guards.countP (Guard.controls mode) ≤ 1
  enter : ∀ h, (∃ g, (c.roster.enter h false).1 = .ok g) ↔ ∃ e, c.roster.live? h = some e
  enterControl : ∀ h, (∃ g, (c.roster.enter h true).1 = .ok g) ↔
    ∃ e, c.roster.live? h = some e ∧ e.access = .control ∧ ∀ g ∈ c.guards, g.controls e.mode = false
  /-- A guard's handle lives and is not revoked, nor is the roster dissolved; so the guard can be
      given back. -/
  kept : ∀ g ∈ c.guards, (∃ e, c.roster.live? g.handle = some e) ∧
    (∀ modes, ∃ err, c.roster.revoke g.handle modes = (.error err, c.roster)) ∧
    (∃ err, c.roster.dissolve = (.error err, c.roster)) ∧ ∃ roster, c.roster.exit g = .ok roster

variable {c : Custody} {quota : Budget}

theorem accounted_act (ha : Accounted c.roster c.guards) (a : Act) (hfew : (c.act a).guards.length < 2 ^ 32) :
    Accounted (c.act a).roster (c.act a).guards := by
  cases a with
  | setUp memory interfaces => exact ha.setUp memory interfaces
  | dissolve => exact ha.dissolve
  | issue mode access => exact ha.issue mode access
  | revoke h modes => exact ha.revoke h modes
  | enter h isControl =>
    simp only [act] at hfew ⊢
    split
    · rename_i hx
      rw [hx] at hfew
      exact ha.enter hfew hx
    · exact ha
  | leave g =>
    simp only [act]
    split
    · rename_i hg
      obtain ⟨roster, hx, hback⟩ := ha.exit hg
      rw [leave, hx]
      exact hback
    · exact ha
  | lock => exact ha.of_slots rfl rfl
  | setMode => exact ha.of_slots rfl Option.isSome_map

theorem Reach.accounted (h : Reach quota c) : Accounted c.roster c.guards := by
  induction h with
  | new => exact .empty rfl rfl
  | act a _ hfew ih => exact accounted_act ih a hfew
  | call M s mv _ hs hfew ih =>
    rw [← hs] at ih
    exact (ControlPlane.accounted_step ih hfew mv).1

theorem Sound.of_accounted (ha : Accounted c.roster c.guards) : c.Sound where
  count h e he := by
    rw [ha.count _ e (at?_of_live? he)]
    apply List.countP_congr
    intro g hg
    rw [ha.on_iff he hg, decide_eq_true_eq]
  inControl h e he := by
    rw [ha.control _ e (at?_of_live? he), List.countP_pos_iff]
    constructor
    · rintro ⟨g, hg, hon⟩
      rw [Bool.and_eq_true] at hon
      exact ⟨g, hg, (ha.on_iff he hg).mp hon.1, hon.2⟩
    · rintro ⟨g, hg, hh, hc⟩
      refine ⟨g, hg, ?_⟩
      rw [(ha.on_iff he hg).mpr hh, hc]
      rfl
  exclusive := ha.exclusive
  enter h := by
    constructor
    · rintro ⟨g, hg⟩
      obtain ⟨_, e, -, he, -⟩ := enter_ok (Prod.ext hg rfl)
      exact ⟨e, he⟩
    · rintro ⟨e, he⟩
      exact ⟨_, enter_of_idle he nofun⟩
  enterControl h := by
    constructor
    · rintro ⟨g, hg⟩
      obtain ⟨_, e, -, he, hc, -⟩ := enter_ok (Prod.ext hg rfl)
      obtain ⟨haccess, hidle⟩ := hc rfl
      exact ⟨e, he, haccess, (ha.idle_iff e.mode).mp hidle⟩
    · rintro ⟨e, he, haccess, hout⟩
      exact ⟨_, enter_of_idle he fun _ => ⟨haccess, (ha.idle_iff e.mode).mpr hout⟩⟩
  kept g hg := by
    obtain ⟨slots, e, -, he, hpos⟩ := ha.count_pos hg
    have hne : e.count ≠ 0 := by
      intro h0
      rw [h0] at hpos
      exact absurd hpos (by decide)
    refine ⟨⟨e, he⟩, fun modes => ?_, ?_, ?_⟩
    · rcases revoke_cases g.handle modes c.roster with h | ⟨_, e', -, he', h0, -⟩
      · exact h
      · obtain rfl : e = e' := Option.some.inj (he.symm.trans he')
        exact absurd h0 hne
    · rcases dissolve_cases c.roster with h | ⟨_, -, hfree⟩
      · exact h
      · exact absurd (hfree _ e (at?_of_live? he)) hne
    · obtain ⟨roster, hx, -⟩ := ha.exit hg
      exact ⟨roster, hx⟩

/-- However guards are taken and given back, while there are not too many of them, the table of handles
    tells what is out. Whatever is called with them out, and whether it succeeds or fails, it returns with
    the same guards accounted for, and a handle that lives before and after it is as it was. -/
theorem reach_sound (h : Reach quota c) :
    c.Sound ∧
    ∀ {σ τ : Type} (M : ControlPlane σ τ) (s : ControlPlane.State σ τ) (mv : ControlPlane.Move σ τ),
      s.roster = c.roster → c.guards.length + 1 < 2 ^ 32 →
      ({ c with roster := (M.step mv s).roster } : Custody).Sound ∧
        ∀ h e e', c.roster.live? h = some e → (M.step mv s).roster.live? h = some e' → e' = e := by
  refine ⟨.of_accounted h.accounted, fun M s mv hs hfew => ?_⟩
  have ha := h.accounted
  rw [← hs] at ha ⊢
  obtain ⟨hstep, hsteady⟩ := ControlPlane.accounted_step ha hfew mv
  exact ⟨.of_accounted hstep, hsteady⟩

/-- Two guards on a handle of the normal mode, of which one is for control. -/
def shared : Custody :=
  let c : Custody := { roster := { quota := {} } }
  (((c.act (.setUp Simulation.memory Simulation.Network.twoPortBoard)).act (.issue .normal .control)).act
    (.enter Camera.normal true)).act (.enter Camera.normal false)

theorem shared_sound :
    (shared.guards.map (·.isControl), (shared.roster.live? Camera.normal).map (·.count)) =
      ([false, true], some 2) ∧
    shared.Sound ∧
    ∀ {σ τ : Type} (M : ControlPlane σ τ) (s : ControlPlane.State σ τ) (mv : ControlPlane.Move σ τ),
      s.roster = shared.roster → shared.guards.length + 1 < 2 ^ 32 →
      ({ shared with roster := (M.step mv s).roster } : Custody).Sound ∧
        ∀ h e e', shared.roster.live? h = some e → (M.step mv s).roster.live? h = some e' → e' = e := by
  have hnew : Reach {} { roster := { quota := {} } } := .new
  have hissued := (hnew.act (.setUp Simulation.memory Simulation.Network.twoPortBoard) (by decide +kernel)).act
    (.issue .normal .control) (by decide +kernel)
  have hreach : Reach {} shared :=
    (hissued.act (.enter Camera.normal true) (by decide +kernel)).act (.enter Camera.normal false) (by decide +kernel)
  exact ⟨by decide +kernel, reach_sound hreach⟩

end Custody

end Connectivity
