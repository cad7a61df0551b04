/-
  Connectivity.Proofs.Remains — what a dissolution leaves on the board. It gives up the events of
  every interface and forgets the modes, but it stops nothing.
  - `Modes.held`: what the modes that are connecting or connected have recorded.
  - `Covered`: what the board holds is accounted for, or was recorded by modes that are gone. The
    accounts carry over, as a mode's turn changes nothing but what is its own (`covered_ledger`).
  - `run_remains`: after every dissolution the control plane hears nothing, and what is left on the
    board was recorded by a mode that was running as it was released, then or earlier.
-/

import Connectivity.Proofs.Accounts
import Connectivity.Proofs.Listening

namespace Connectivity

/-! ## Holdings within others -/

namespace Simulation

/-- One thing that a platform may hold. -/
inductive Item where
  | session (id : SessionId)
  | server (name : String)
  | interface (name : String)
  deriving DecidableEq

namespace Holdings

def has (h : Holdings) : Item → Bool
  | .session id => h.session id
  | .server name => h.serving name
  | .interface name => h.running name

theorem ext_has {h h' : Holdings} (heq : ∀ i, h.has i = h'.has i) : h = h' := by
  obtain ⟨session, serving, running⟩ := h
  obtain rfl : session = h'.session := funext fun id => heq (.session id)
  obtain rfl : serving = h'.serving := funext fun name => heq (.server name)
  obtain rfl : running = h'.running := funext fun name => heq (.interface name)
  rfl

variable (h : Holdings) (i : Item) (name : String) (on : Bool)

theorem has_setSession (id : SessionId) :
    (h.setSession id on).has i = if i = .session id then on else h.has i := by
  cases i <;> simp [has, setSession, Function.update_apply]

theorem has_setServing : (h.setServing name on).has i = if i = .server name then on else h.has i := by
  cases i <;> simp [has, setServing, Function.update_apply]

theorem has_setRunning : (h.setRunning name on).has i = if i = .interface name then on else h.has i := by
  cases i <;> simp [has, setRunning, Function.update_apply]

/-- Whatever is held is held in one of a list. -/
def Within (all : List Holdings) (h : Holdings) : Prop := ∀ i, h.has i = true → ∃ x ∈ all, x.has i = true

namespace Within

variable {all rest : List Holdings} {h own h' own' : Holdings}

theorem head (h : Holdings) (rest : List Holdings) : h.Within (h :: rest) :=
  fun _ hi => ⟨h, List.mem_cons_self, hi⟩

theorem mono (h₁ : h.Within rest) (hrest : rest ⊆ all) : h.Within all :=
  fun i hi => (h₁ i hi).imp fun _ hx => ⟨hrest hx.1, hx.2⟩

/-- What is within others stands for them. -/
theorem trans (h₁ : h.Within (own :: rest)) (h₂ : own.Within all) (hrest : rest ⊆ all) : h.Within all := by
  intro i hi
  obtain ⟨x, hx, hxi⟩ := h₁ i hi
  rcases List.mem_cons.mp hx with rfl | hx
  · exact h₂ i hxi
  · exact ⟨x, hrest hx, hxi⟩

theorem eq_idle (h₁ : h.Within all) (hall : ∀ x ∈ all, x = .idle) : h = .idle := by
  refine ext_has fun i => ?_
  have hidle : idle.has i = false := by cases i <;> rfl
  rw [hidle]
  refine eq_false_of_ne_true fun hi => ?_
  obtain ⟨x, hx, hxi⟩ := h₁ i hi
  rw [hall x hx, hidle] at hxi
  cases hxi

/-- One thing comes or goes on both sides. -/
theorem change (h₁ : h.Within (own :: rest)) {j : Item} {on : Bool}
    (hh : ∀ i, h'.has i = if i = j then on else h.has i)
    (hown : ∀ i, own'.has i = if i = j then on else own.has i) : h'.Within (own' :: rest) := by
  intro i hi
  rw [hh] at hi
  split at hi
  · rename_i heq
    exact ⟨own', List.mem_cons_self, by rw [hown, if_pos heq, hi]⟩
  · rename_i hne
    obtain ⟨x, hx, hxi⟩ := h₁ i hi
    rcases List.mem_cons.mp hx with rfl | hx
    · exact ⟨own', List.mem_cons_self, by rw [hown, if_neg hne, hxi]⟩
    · exact ⟨x, List.mem_cons_of_mem _ hx, hxi⟩

theorem setSession (hw : h.Within (own :: rest)) (id : SessionId) (on : Bool) :
    (h.setSession id on).Within (own.setSession id on :: rest) :=
  hw.change (fun i => has_setSession h i on id) fun i => has_setSession own i on id

theorem setServing (hw : h.Within (own :: rest)) (name : String) (on : Bool) :
    (h.setServing name on).Within (own.setServing name on :: rest) :=
  hw.change (fun i => has_setServing h i name on) fun i => has_setServing own i name on

theorem setRunning (hw : h.Within (own :: rest)) (name : String) (on : Bool) :
    (h.setRunning name on).Within (own.setRunning name on :: rest) :=
  hw.change (fun i => has_setRunning h i name on) fun i => has_setRunning own i name on

end Within

end Holdings

end Simulation

open Simulation

/-! ## Modes that are gone -/

/-- What the modes that are connecting or connected have recorded. -/
def Modes.held (r : Modes) : Holdings where
  session id := r.normal.status.isRunning && r.normal.session? = some id
  serving name :=
    r.accessPoint.status.isRunning && (r.accessPoint.serverRunning && r.accessPoint.carrierName? = some name)
  running name := Mode.all.any fun mode => (r.get mode).status.isRunning && (r.get mode).carrierName? = some name

theorem Modes.held_of_not_running {r : Modes} (h : ∀ mode, (r.get mode).status.isRunning = false) :
    r.held = .idle := by
  have hnormal : r.normal.status.isRunning = false := h .normal
  have haccessPoint : r.accessPoint.status.isRunning = false := h .accessPoint
  simp [held, Holdings.idle, Mode.all, hnormal, haccessPoint, h]

/-- What sound modes account for, they have recorded as running modes. -/
theorem within_held {r : Modes} {h : Holdings} (hs : ∀ mode, (r.get mode).Sound)
    (ha : Accounts (ControlPlane.shares (some r)) h) (rest : List Holdings) : h.Within (r.held :: rest) := by
  -- A mode that is not running accounts for nothing.
  have hrunning (mode : Mode) (hshare : (r.get mode).share ≠ {}) : (r.get mode).status.isRunning = true :=
    eq_true_of_ne_false fun hr => hshare ((hs mode).ended.share hr)
  intro i hi
  refine ⟨r.held, List.mem_cons_self, ?_⟩
  cases i with
  | session id =>
    have hsession : (r.get .normal).share.session = some id := (ha.session id).mp hi
    have hrun := hrunning .normal fun hnone => by
      rw [hnone] at hsession
      cases hsession
    exact Bool.and_eq_true_iff.mpr ⟨hrun, decide_eq_true hsession⟩
  | server name =>
    have hserver : (r.get .accessPoint).share.server = some name := (ha.serving name).mp hi
    have hrun := hrunning .accessPoint fun hnone => by
      rw [hnone] at hserver
      cases hserver
    obtain ⟨hname, hserving⟩ := ModeState.server_eq_some_iff.mp hserver
    exact Bool.and_eq_true_iff.mpr ⟨hrun, Bool.and_eq_true_iff.mpr ⟨hserving, decide_eq_true hname⟩⟩
  | interface name =>
    obtain ⟨mode, hm⟩ := ha.running name hi
    obtain ⟨hname, hrun⟩ := ModeState.interface_eq_some_iff.mp hm
    have hall : mode ∈ Mode.all := by cases mode <;> decide
    exact List.any_eq_true.mpr ⟨mode, hall, Bool.and_eq_true_iff.mpr ⟨hrun, decide_eq_true hname⟩⟩

/-- What is held is accounted for, but for what modes that are gone had recorded. -/
def Covered (past : List Holdings) (share : Mode → Share) (h : Holdings) : Prop :=
  ∃ own, Accounts share own ∧ h.Within (own :: past)

theorem covered_ledger (past : List Holdings) : Ledger (Covered past) where
  opened := fun ⟨_, ha, hw⟩ hs id => ⟨_, ha.opened hs id, hw.setSession id true⟩
  closed := fun ⟨_, ha, hw⟩ hs => ⟨_, ha.closed hs, hw.setSession _ false⟩
  served := fun ⟨_, ha, hw⟩ hs => ⟨_, ha.served hs, hw.setServing _ true⟩
  unserved := fun ⟨_, ha, hw⟩ hs => ⟨_, ha.unserved hs, hw.setServing _ false⟩
  restarted := fun ⟨_, ha, hw⟩ hs => ⟨_, ha.restarted hs, hw.setRunning _ true⟩
  halted := fun ⟨_, ha, hw⟩ name => ⟨_, ha.halted name, hw.setRunning name false⟩
  started := fun ⟨_, ha, hw⟩ hs name => ⟨_, ha.started hs name, hw.setRunning name true⟩
  stopped := fun {_ h _ name} ⟨own, ha, hw⟩ hs hr => by
    -- Nothing says that it stands still in the accounts, but there it can be halted as well.
    have hdown : (own.setRunning name false).running name = false := by simp [Holdings.setRunning]
    have hhalted := hw.setRunning name false
    rw [Holdings.setRunning_of_eq h hr] at hhalted
    exact ⟨_, (ha.halted name).stopped hs hdown, hhalted⟩

namespace ControlPlane

/-! ## Dissolutions -/

section
variable {σ τ : Type} {M : ControlPlane σ τ}

/-- A dissolution releases modes that are there. -/
theorem modes_dissolve_ok {s : State σ τ} (h : (M.dissolve s).1 = .ok ()) :
    (∃ r, s.roster.modes = some r) ∧ (M.dissolve s).2.roster.modes = none := by
  unfold dissolve at h ⊢
  split at h
  · cases h
  · rename_i hd
    exact ⟨⟨_, (Roster.dissolve_ok hd).1⟩, (Roster.dissolve_ok hd).2⟩

variable (M)

/-- The modes that a move releases. -/
def freed (mv : Move σ τ) (s : State σ τ) : List Modes :=
  match mv, (M.dissolve s).1 with
  | .dissolve, .ok _ => s.roster.modes.toList
  | _, _ => []

/-- The modes that a run releases, the last first. -/
def released : List (Move σ τ) → State σ τ → List Modes
  | [], _ => []
  | mv :: mvs, s => released mvs (M.step mv s) ++ M.freed mv s

end

variable {τ : Type} {policy : Policy} {store : Store τ} {memory : Roster.Memory}
  {valid : policy.validate = some (.ok ())}

/-- Moves of runs in which only the control plane uses the board, and can always give up events. What
    happens outside leaves what is held, registers nothing for the control plane and makes nothing
    fair that was not. -/
def SoleUser (s : State Watched τ) : Move Watched τ → Prop
  | .outside platform _ _ =>
    let e := { s.env with platform := platform s.env.platform }
    Env.Undisturbed s.env e ∧ (∀ name, e.Hears name → s.env.Hears name) ∧ e.platform.board.queue .unsubscribe = []
  | _ => True

/-- What every move keeps: modes in order, nothing heard but their interfaces, and nothing held that
    neither they nor the modes before them recorded. -/
structure Kept (past : List Modes) (s : State Watched τ) : Prop where
  labelled : ∀ r, s.roster.modes = some r → r.Labelled
  consistent : ∀ r, s.roster.modes = some r → r.Consistent none
  attentive : Attentive s
  reconciled : Reconciled (Covered (past.map Modes.held)) s.view

namespace Kept

variable {past : List Modes} {s : State Watched τ}

theorem initial (hn : s.roster.modes = none) (hi : s.env.holdings = .idle) (hh : s.env.Attends []) : Kept [] s where
  labelled := by simp [hn]
  consistent := by simp [hn]
  attentive := by
    rw [Attentive, hn]
    exact hh
  reconciled :=
    { sound := by simp [State.view, hn]
      accounts := fun _ => by
        rw [State.view, hn, hi]
        exact ⟨.idle, accounts_idle, .head _ _⟩ }

theorem within {r : Modes} (h : Kept past s) (hr : s.roster.modes = some r) (hf : s.env.fair = true) :
    s.env.holdings.Within ((r :: past).map Modes.held) := by
  obtain ⟨own, ha, hw⟩ := h.reconciled.accounts hf
  have ha : Accounts (shares (some r)) own := hr ▸ ha
  exact hw.trans (within_held (h.reconciled.sound r hr) ha _) (List.subset_cons_self _ _)

/-- Where there are no modes, everything was recorded by modes that are gone. -/
theorem within_of_none (h : Kept past s) (hn : s.roster.modes = none) (hf : s.env.fair = true) :
    s.env.holdings.Within (past.map Modes.held) := by
  obtain ⟨own, ha, hw⟩ := h.reconciled.accounts hf
  rw [State.view, hn] at ha
  refine hw.trans (fun i hi => ?_) (List.Subset.refl _)
  cases i with
  | session id => cases (ha.session id).mp hi
  | server name => cases (ha.serving name).mp hi
  | interface name =>
    obtain ⟨_, hrunning⟩ := ha.running name hi
    cases hrunning

theorem dissolve {r : Modes} (h : Kept past s) (hr : s.roster.modes = some r)
    (hd : ((Watched.plane policy store memory valid).dissolve s).1 = .ok ()) :
    Kept (r :: past) ((Watched.plane policy store memory valid).dissolve s).2 := by
  obtain ⟨-, hnone⟩ := modes_dissolve_ok hd
  have hleads : (Watched.plane policy store memory valid).Leads ((Watched.plane policy store memory valid).capability s)
      (none, s.env) ((Watched.plane policy store memory valid).dissolve s).2.view := by
    rcases dissolve_leads (M := Watched.plane policy store memory valid) s with hs | ⟨-, hleads⟩
    · rw [hs, hr] at hnone
      cases hnone
    · exact hleads
  have hgone : Reconciled (Covered ((r :: past).map Modes.held)) (none, s.env) :=
    { sound := fun _ hr => nomatch hr
      accounts := fun hf => ⟨.idle, accounts_idle, (h.within hr hf).mono (List.subset_cons_self _ _)⟩ }
  have hI : (Watched.plane policy store memory valid).Invariant _ (Reconciled (Covered ((r :: past).map Modes.held))) :=
    invariant_reconciled (covered_ledger _)
  have hset : (Watched.plane policy store memory valid).Alone s .setUp := trivial
  exact
    { labelled := by simp [hnone]
      consistent := by simp [hnone]
      attentive := by
        rw [Attentive, hnone]
        exact h.attentive.dissolve rfl hd
      reconciled := hI.leads hset hleads (fun _ hr => nomatch hr) hgone }

theorem attentive_step (h : Kept past s) {mv : Move Watched τ} (hok : SoleUser s mv)
    (hd : mv = .dissolve → ((Watched.plane policy store memory valid).dissolve s).1 ≠ .ok ()) :
    Attentive ((Watched.plane policy store memory valid).step mv s) := by
  by_cases hi : mv.isInner = true
  · exact h.attentive.step rfl h.labelled h.consistent hi
  · cases mv with
    | dissolve =>
      rw [ControlPlane.step, dissolve_refused (hd rfl)]
      exact h.attentive
    | outside => exact ⟨fun name hn => h.attentive.known name (hok.2.1 name hn), hok.2.2⟩
    | _ => exact absurd rfl hi

/-- A move that releases no modes. -/
theorem stay (h : Kept past s) {mv : Move Watched τ} (hok : SoleUser s mv)
    (hd : mv = .dissolve → ((Watched.plane policy store memory valid).dissolve s).1 ≠ .ok ()) :
    Kept past ((Watched.plane policy store memory valid).step mv s) := by
  have halone : (Watched.plane policy store memory valid).Alone s mv := by
    cases mv with
    | dissolve => exact hd rfl
    | outside => exact hok.1
    | _ => trivial
  have hconsistent : (Watched.plane policy store memory valid).Invariant (fun _ _ => True) fun v =>
      ∀ r, v.1 = some r → r.Consistent none := invariant_consistent fun _ _ _ _ hb => nomatch hb
  obtain ⟨hreconciled, hlabelled⟩ := (invariant_reconciled (covered_ledger _)).step halone h.labelled h.reconciled
  exact
    { labelled := hlabelled
      consistent := (hconsistent.step trivial h.labelled h.consistent).1
      attentive := h.attentive_step hok hd
      reconciled := hreconciled }

theorem step (h : Kept past s) {mv : Move Watched τ} (hok : SoleUser s mv) :
    Kept ((Watched.plane policy store memory valid).freed mv s ++ past)
      ((Watched.plane policy store memory valid).step mv s) := by
  by_cases hd : mv = .dissolve ∧ ((Watched.plane policy store memory valid).dissolve s).1 = .ok ()
  · obtain ⟨rfl, hd⟩ := hd
    obtain ⟨r, hr⟩ := (modes_dissolve_ok hd).1
    have hfreed : (Watched.plane policy store memory valid).freed .dissolve s = [r] := by simp [freed, hd, hr]
    rw [hfreed]
    exact h.dissolve hr hd
  · have hfreed : (Watched.plane policy store memory valid).freed mv s = [] := by
      unfold freed
      split
      · exact absurd ⟨rfl, ‹_›⟩ hd
      · rfl
    rw [hfreed]
    exact h.stay hok fun hmv hx => hd ⟨hmv, hx⟩

theorem run (h : Kept past s) {mvs : List (Move Watched τ)}
    (hok : (Watched.plane policy store memory valid).Allowed SoleUser s mvs) :
    Kept ((Watched.plane policy store memory valid).released mvs s ++ past)
      ((Watched.plane policy store memory valid).run mvs s) := by
  induction mvs generalizing past s with
  | nil => exact h
  | cons mv mvs ih =>
    rw [released, List.append_assoc]
    exact ih (h.step hok.1) hok.2

end Kept

/-- Over every run on a simulated board that only the control plane uses and on which no
    unsubscription fails: after a dissolution the control plane gets no events of any interface, and if
    all was fair, a session that is open, a server that runs or an interface that runs was recorded by
    a mode that was connecting or connected as it was released, by this dissolution or an earlier one.
    If no mode was, nothing is left. -/
theorem run_remains {s₀ : State Watched τ} {mvs : List (Move Watched τ)} {r : Modes} (hn : s₀.roster.modes = none)
    (hi : s₀.env.holdings = .idle) (hh : s₀.env.Attends [])
    (hok : (Watched.plane policy store memory valid).Allowed SoleUser s₀ mvs)
    (hr : ((Watched.plane policy store memory valid).run mvs s₀).roster.modes = some r)
    (hd : ((Watched.plane policy store memory valid).dissolve
      ((Watched.plane policy store memory valid).run mvs s₀)).1 = .ok ()) :
    let s := ((Watched.plane policy store memory valid).dissolve
      ((Watched.plane policy store memory valid).run mvs s₀)).2
    let past := r :: (Watched.plane policy store memory valid).released mvs s₀
    let n := s.env.platform.board.inner
    (∀ name, n.listeners.find? name ≠ some .controlPlane) ∧
    (s.env.fair = true →
      (∀ id, n.sessions.contains id = true → ∃ x ∈ past, x.held.session id = true) ∧
      (∀ name, n.servers.contains name = true → ∃ x ∈ past, x.held.serving name = true) ∧
      (∀ name d, n.devices.find? name = some d → d.running = true → ∃ x ∈ past, x.held.running name = true) ∧
      ((∀ x ∈ past, ∀ mode, (x.get mode).status ≠ .connecting ∧ (x.get mode).status ≠ .connected) →
        n.holdings = .idle)) := by
  intro s past n
  have hkept : Kept past s := by
    have hrun := (Kept.initial hn hi hh).run hok
    rw [List.append_nil] at hrun
    exact hrun.dissolve hr hd
  have hnone : s.roster.modes = none := (modes_dissolve_ok hd).2
  have hattends : s.env.Attends [] := by
    have hattentive := hkept.attentive
    rwa [Attentive, hnone] at hattentive
  refine ⟨fun name hn => absurd (hattends.known name hn) List.not_mem_nil, fun hf => ?_⟩
  have hwithin := hkept.within_of_none hnone hf
  have hrecorded (i : Item) (hi : n.holdings.has i = true) : ∃ x ∈ past, x.held.has i = true := by
    obtain ⟨_, hmem, hxi⟩ := hwithin i hi
    obtain ⟨x, hx, rfl⟩ := List.mem_map.mp hmem
    exact ⟨x, hx, hxi⟩
  refine ⟨fun id => hrecorded (.session id), fun name => hrecorded (.server name), fun name d hfind hrun => ?_,
    fun hall => ?_⟩
  · refine hrecorded (.interface name) ?_
    simp [Holdings.has, Network.holdings, hfind, hrun]
  · refine hwithin.eq_idle fun h hh => ?_
    obtain ⟨x, hx, rfl⟩ := List.mem_map.mp hh
    refine Modes.held_of_not_running fun mode => eq_false_of_ne_true fun hrun => ?_
    rcases Status.isRunning_iff.mp hrun with hs | hs
    · exact (hall x hx mode).1 hs
    · exact (hall x hx mode).2 hs

end ControlPlane

namespace Camera

open Simulation ControlPlane

/-- The normal mode joins the network and gets a lease. -/
def connect : List (Move Watched Shelf) :=
  switchOn ++ [.start normal (.given home)] ++ happen "wlan0" .stationConnected

/-- The access point starts as well and gets its server. -/
def serve : List (Move Watched Shelf) :=
  connect ++ [.start accessPoint (.given hotspot)] ++ happen "wlan0" .apStarted

theorem soleUser_occur {s : State Watched Shelf} (hq : s.env.platform.board.queue .unsubscribe = []) (name : String)
    (event : Event) :
    SoleUser s (.outside (fun w => { w with board.inner := (w.board.inner.occur name event).2 }) id 0) := by
  refine ⟨⟨Network.holdings_occur name event _, id⟩, fun name' hn => ?_, hq⟩
  rw [Env.Hears, Network.listeners_occur] at hn
  exact hn

/-- The run is set up twice: the first dissolution leaves a session, a server and an interface that
    runs, the second a session of its own. -/
theorem serve_remains :
    let mvs := serve ++ .dissolve :: connect
    let s := (watched.dissolve (watched.run mvs start)).2
    let n := s.env.platform.board.inner
    n.sessions.contains ⟨1⟩ = true ∧ n.sessions.contains ⟨2⟩ = true ∧ n.servers.contains "wlan0" = true ∧
    ∃ r, (watched.run mvs start).roster.modes = some r ∧
      (∀ name, n.listeners.find? name ≠ some .controlPlane) ∧
      (∀ id, n.sessions.contains id = true → ∃ x ∈ r :: watched.released mvs start, x.held.session id = true) ∧
      (∀ name, n.servers.contains name = true →
        ∃ x ∈ r :: watched.released mvs start, x.held.serving name = true) ∧
      ∀ name d, n.devices.find? name = some d → d.running = true →
        ∃ x ∈ r :: watched.released mvs start, x.held.running name = true := by
  intro mvs s n
  have hsome : (watched.run mvs start).roster.modes.isSome = true := by decide +kernel
  obtain ⟨r, hr⟩ := Option.isSome_iff_exists.mp hsome
  have hidle : start.env.holdings = .idle := Network.holdings_ofInterfaces Network.twoPortBoard
  have hattends : start.env.Attends [] := ⟨fun _ hn => (nomatch hn), rfl⟩
  have hsole : watched.Allowed SoleUser start mvs :=
    ⟨trivial, trivial, trivial, trivial, soleUser_occur (by decide +kernel) _ _, trivial, trivial,
      soleUser_occur (by decide +kernel) _ _, trivial, trivial, trivial, trivial, trivial, trivial,
      soleUser_occur (by decide +kernel) _ _, trivial, trivial⟩
  have hdissolved : (watched.dissolve (watched.run mvs start)).1 = .ok () := by decide +kernel
  obtain ⟨hlisteners, hheld⟩ := run_remains rfl hidle hattends hsole hr hdissolved
  obtain ⟨hsessions, hservers, hrunning, -⟩ := hheld (by decide +kernel)
  exact ⟨by decide +kernel, by decide +kernel, by decide +kernel, r, hr, hlisteners, hsessions, hservers, hrunning⟩

/-- No call fails and the dissolution succeeds, but the session is still open, the server serves and the
    interface runs. -/
theorem a_dissolution_stops_nothing :
    let s := watched.run serve start
    let n := (watched.dissolve s).2.env.platform.board.inner
    watched.Allowed SoleUser start serve ∧ s.env.platform.board.faults = .empty ∧ n.failures = .empty ∧
      (watched.dissolve s).1 = .ok () ∧ n.sessions.contains ⟨1⟩ = true ∧ n.servers.contains "wlan0" = true ∧
      (n.devices.find? "wlan0").any (·.running) = true := by
  intro s n
  refine ⟨?_, by decide +kernel, by decide +kernel, by decide +kernel, by decide +kernel, by decide +kernel,
    by decide +kernel⟩
  exact ⟨trivial, trivial, trivial, trivial, soleUser_occur (by decide +kernel) _ _, trivial, trivial,
    soleUser_occur (by decide +kernel) _ _, trivial, trivial⟩

end Camera

end Connectivity
