/-
  Connectivity.Proofs.Names — a handle names what it was last issued for, until it is revoked.
  - `Registration`: the register of a table says, the latest first, which handles were issued since the
    table was made and which were revoked. `named?` reads off it what a handle stands for.
  - `Enrolled`: the handles that live are those that the register names, and a slot's generation counts
    how often the slot was freed, up to the size of its word. Each act keeps it.
  - `run_names`: so whatever is done, an old handle never stands for a new one, unless its slot was freed
    often enough for the generation to come round.
-/

import Connectivity.Proofs.Guards

namespace Connectivity

/-! ## Registers -/

inductive Registration where
  | issued (h : Handle) (mode : Mode) (access : Access)
  | revoked (h : Handle)
  deriving DecidableEq

/-- The handle stood for something in a slot, which was freed. -/
def Registration.frees (i : Nat) : Registration → Bool
  | .issued .. => false
  | .revoked h => h.index = i

/-- What a handle was last issued for, if it was not revoked since. -/
def named? (h : Handle) : List Registration → Option (Mode × Access)
  | [] => none
  | .issued h' mode access :: past => if h' = h then some (mode, access) else named? h past
  | .revoked h' :: past => if h' = h then none else named? h past

/-- How often a slot was freed. -/
def timesFreed (i : Nat) (register : List Registration) : Nat := register.countP (Registration.frees i)

theorem timesFreed_issued (i : Nat) (h : Handle) (mode : Mode) (access : Access) (past : List Registration) :
    timesFreed i (.issued h mode access :: past) = timesFreed i past := by
  simp [timesFreed, Registration.frees]

theorem timesFreed_revoked (i : Nat) (h : Handle) (past : List Registration) :
    timesFreed i (.revoked h :: past) = timesFreed i past + if h.index = i then 1 else 0 := by
  simp [timesFreed, List.countP_cons, Registration.frees]

/-! ## Tables and registers -/

def Entry.purpose (e : Entry) : Mode × Access := (e.mode, e.access)

/-- A table and the register of its handles. -/
structure Enrolled (r : Roster) (register : List Registration) : Prop where
  together : r.slots.isSome = r.modes.isSome
  fits : r.quota.total ≤ Policy.tableMax
  /-- Without a table nothing is registered. -/
  empty : r.slots = none → register = []
  index : ∀ i slot, r.slot? i = some slot → i < 65536
  generation : ∀ i slot, r.slot? i = some slot → slot.generation = UInt16.ofNat (timesFreed i register)
  named : ∀ h, (r.live? h).map Entry.purpose = named? h register
  /-- A handle that was revoked had the generation that its slot had until then. -/
  stamped : ∀ later h earlier, register = later ++ .revoked h :: earlier →
    h.generation = UInt16.ofNat (timesFreed h.index earlier)

namespace Enrolled

open Roster

variable {r r' : Roster} {register : List Registration} {h : Handle} {e : Entry}

theorem new (hs : r.slots = none) (hm : r.modes = none) (hq : r.quota.total ≤ Policy.tableMax) : Enrolled r [] where
  together := by rw [hs, hm]; rfl
  fits := hq
  empty _ := rfl
  index i slot hi := by simp [slot?, hs] at hi
  generation i slot hi := by simp [slot?, hs] at hi
  named h := by simp [live?, hs, named?]
  stamped later h earlier heq := by simp at heq

theorem of_slots (he : Enrolled r register) (hs : r'.slots = r.slots) (hm : r'.modes.isSome = r.modes.isSome)
    (hq : r'.quota = r.quota) : Enrolled r' register where
  together := by rw [hs, hm, he.together]
  fits := hq ▸ he.fits
  empty hn := he.empty (hs ▸ hn)
  index i slot hi := he.index i slot (slot?_congr hs i ▸ hi)
  generation i slot hi := he.generation i slot (slot?_congr hs i ▸ hi)
  named h := by rw [live?_congr hs, he.named]
  stamped := he.stamped

/-- One slot changes, and the register with it. -/
theorem modify (hr : Enrolled r register) {slots : List Slot} (hs : r.slots = some slots) (i : Nat) (f : Slot → Slot)
    {register' : List Registration}
    (hgen : ∀ j slot, r.slot? j = some slot →
      (if i = j then f slot else slot).generation = UInt16.ofNat (timesFreed j register'))
    (hnamed : ∀ h, (({ r with slots := some (slots.modify i f) } : Roster).live? h).map Entry.purpose =
      named? h register')
    (hstamped : ∀ later h earlier, register' = later ++ .revoked h :: earlier →
      h.generation = UInt16.ofNat (timesFreed h.index earlier)) :
    Enrolled { r with slots := some (slots.modify i f) } register' := by
  have hslot {j : Nat} {slot' : Slot}
      (hj : ({ r with slots := some (slots.modify i f) } : Roster).slot? j = some slot') :
      ∃ slot, r.slot? j = some slot ∧ slot' = if i = j then f slot else slot := by
    rw [slot?_modify hs] at hj
    split at hj
    · rename_i hij
      obtain ⟨slot, hslot, rfl⟩ := Option.map_eq_some_iff.mp hj
      exact ⟨slot, hslot, (if_pos hij).symm⟩
    · rename_i hij
      exact ⟨slot', hj, (if_neg hij).symm⟩
  refine ⟨?_, hr.fits, nofun, fun j slot' hj => ?_, fun j slot' hj => ?_, hnamed, hstamped⟩
  · rw [← hr.together, hs]
    rfl
  · obtain ⟨slot, hold, -⟩ := hslot hj
    exact hr.index j slot hold
  · obtain ⟨slot, hold, hnew⟩ := hslot hj
    rw [hnew]
    exact hgen j slot hold

/-- An entry is written into a slot; what lives then is what the register has. -/
theorem write (hr : Enrolled r register) {slots : List Slot} (hs : r.slots = some slots) (i : Nat) (e' : Entry)
    {register' : List Registration} (hfreed : ∀ j, timesFreed j register' = timesFreed j register)
    (hnamed : ∀ h, (({ r with slots := some (Roster.setEntry slots i e') } : Roster).live? h).map Entry.purpose =
      named? h register')
    (hstamped : ∀ later h earlier, register' = later ++ .revoked h :: earlier →
      h.generation = UInt16.ofNat (timesFreed h.index earlier)) :
    Enrolled { r with slots := some (Roster.setEntry slots i e') } register' := by
  refine hr.modify hs i _ (fun j slot hj => ?_) hnamed hstamped
  rw [hfreed]
  split <;> exact hr.generation j slot hj

/-- A handle's entry changes, but not what it is for. -/
theorem setEntry (hr : Enrolled r register) {slots : List Slot} (hs : r.slots = some slots) (he : r.live? h = some e)
    {e' : Entry} (hp : e'.purpose = e.purpose) :
    Enrolled { r with slots := some (Roster.setEntry slots h.index e') } register := by
  refine hr.write hs h.index e' (fun _ => rfl) (fun h' => ?_) hr.stamped
  rw [live?_setEntry hs he, ← hr.named h']
  split
  · rename_i hh
    rw [← hh, he, Option.map_some, Option.map_some, hp]
  · rfl

/-! ## Acts -/

theorem enter (hr : Enrolled r register) {isControl : Bool} {g : Guard} (hx : r.enter h isControl = (.ok g, r')) :
    Enrolled r' register := by
  obtain ⟨slots, e, hs, he, -, -, rfl⟩ := enter_ok hx
  exact hr.setEntry hs he rfl

theorem leave (hr : Enrolled r register) (g : Guard) : Enrolled (r.leave g) register := by
  unfold Roster.leave
  split
  · rename_i hx
    obtain ⟨slots, e, hs, he, rfl⟩ := exit_ok hx
    exact hr.setEntry hs he rfl
  · exact hr

/-- A handle with the generation of its slot is made live. -/
theorem fill (hr : Enrolled r register) {slots : List Slot} (hs : r.slots = some slots) {slot : Slot}
    (hslot : r.slot? h.index = some slot) (hg : slot.generation = h.generation) (mode : Mode) (access : Access) :
    Enrolled { r with slots := some (Roster.setEntry slots h.index { mode, access }) }
      (.issued h mode access :: register) := by
  refine hr.write hs h.index _ (fun j => timesFreed_issued j h mode access register) (fun h' => ?_) ?_
  · rw [live?_fill hs hslot hg, named?, ← hr.named]
    split <;> rfl
  · intro later h₀ earlier heq
    obtain ⟨-, hcons⟩ | ⟨later', rfl, heq'⟩ := List.cons_eq_append_iff.mp heq
    · cases hcons
    · exact hr.stamped later' h₀ earlier heq'

/-- A handle is issued in a free slot, under a name that stands for nothing. -/
theorem issue (hr : Enrolled r register) {mode : Mode} {access : Access}
    (hx : r.issue mode access = (.ok h, r')) :
    r.live? h = none ∧ h.generation = UInt16.ofNat (timesFreed h.index register) ∧
      Enrolled r' (.issued h mode access :: register) := by
  rcases issue_cases mode access r with ⟨err, hy⟩ | ⟨slots, i, slot, hs, hslot, hfree, hy⟩
  · rw [hy] at hx
    cases hx
  have hi : (Handle.make i slot.generation).index = i := by
    rw [Handle.index_make, Nat.mod_eq_of_lt (hr.index i slot hslot)]
  have hg := Handle.generation_make i slot.generation
  rw [hy] at hx
  cases hx
  generalize Handle.make i slot.generation = h at hi hg ⊢
  subst hi
  have hnone : r.live? h = none := by simp [live?_eq, hslot, hfree]
  exact ⟨hnone, hg.trans (hr.generation _ slot hslot), hr.fill hs hslot hg.symm mode access⟩

theorem revoke (hr : Enrolled r register) {modes : Modes} (hx : r.revoke h modes = (.ok (), r')) :
    Enrolled r' (.revoked h :: register) := by
  rcases revoke_cases h modes r with ⟨err, hy⟩ | ⟨slots, e, hs, he, -, -, hy⟩
  · rw [hy] at hx
    cases hx
  rw [hy] at hx
  cases hx
  obtain ⟨slot, hslot, hg, -⟩ := live?_eq_some.mp he
  refine hr.modify hs h.index freed (fun j slot' hj => ?_) (fun h' => ?_) ?_
  · have hgen := hr.generation j slot' hj
    rw [timesFreed_revoked]
    split
    · rw [UInt16.ofNat_add, ← hgen]
      rfl
    · exact hgen
  · rw [live?_freed hs he, named?, ← hr.named]
    split <;> rfl
  · intro later h₀ earlier heq
    obtain ⟨-, hcons⟩ | ⟨later', rfl, heq'⟩ := List.cons_eq_append_iff.mp heq
    · cases hcons
      exact hg.symm.trans (hr.generation _ slot hslot)
    · exact hr.stamped later' h₀ earlier heq'

theorem setUp (hr : Enrolled r register) (memory : Memory) (interfaces : List Interface) :
    Enrolled (r.setUp memory interfaces).2 register := by
  rcases setUp_cases memory interfaces r with ⟨-, hsame⟩ | ⟨modes, hm, hx⟩
  · rw [hsame]
    exact hr
  · have hs := slots_eq_none hr.together hm
    obtain rfl := hr.empty hs
    have hslot {i : Nat} {slot : Slot} (hi : (r.setUp memory interfaces).2.slot? i = some slot) :
        i < r.quota.total.toNat ∧ slot = {} := by
      rw [hx, slot?, Option.bind_some, List.getElem?_replicate] at hi
      split at hi
      · exact ⟨‹_›, (Option.some.inj hi).symm⟩
      · cases hi
    have htotal : r.quota.total.toNat ≤ 65535 := hr.fits
    refine ⟨by rw [hx]; rfl, by rw [hx]; exact hr.fits, fun _ => rfl, ?_, ?_, ?_, ?_⟩
    · intro i slot hi
      have := (hslot hi).1
      omega
    · intro i slot hi
      rw [(hslot hi).2]
      rfl
    · intro h
      have hnone : (r.setUp memory interfaces).2.live? h = none := by
        rw [live?_eq]
        cases hi : (r.setUp memory interfaces).2.slot? h.index with
        | none => rfl
        | some slot =>
          rw [(hslot hi).2]
          simp
      rw [hnone]
      rfl
    · intro later h earlier heq
      simp at heq

end Enrolled

/-! ## What names stand for -/

/-- What can be relied on about names, where there is a table. -/
structure Names (r : Roster) (register : List Registration) : Prop where
  modeOf : ∀ h, r.modeOf h = (named? h register).elim (.error (.unknownHandle h)) fun x => .ok x.1
  enter : ∀ h, (r.enter h false).1 =
    (named? h register).elim (.error (.unknownHandle h)) fun x => .ok ⟨h, x.1, x.2, false⟩
  /-- A guard is for what the name of its handle stands for. -/
  entered : ∀ h isControl g, (r.enter h isControl).1 = .ok g →
    g.handle = h ∧ named? h register = some (g.mode, g.access)
  unknown : ∀ h isControl, (r.enter h isControl).1 = .error (.unknownHandle h) ↔ named? h register = none
  revoke : ∀ h modes, (r.revoke h modes).1 = .error (.unknownHandle h) ↔ named? h register = none
  fresh : ∀ mode access h, (r.issue mode access).1 = .ok h → named? h register = none
  /-- A name that is issued again after it was revoked had its slot freed since, from that time on and
      with it, as often as a generation has values, or a multiple of that. -/
  reissued : ∀ mode access h, (r.issue mode access).1 = .ok h →
    ∀ later earlier, register = later ++ .revoked h :: earlier →
      ∃ k, 0 < k ∧ timesFreed h.index (later ++ [.revoked h]) = 65536 * k

theorem Names.of_enrolled {r : Roster} {register : List Registration} (hr : Enrolled r register)
    (hsome : r.modes.isSome = true) : Names r register := by
  obtain ⟨slots, hs⟩ := Option.isSome_iff_exists.mp (hr.together.trans hsome)
  have hnamed (h : Handle) : named? h register = none ↔ r.live? h = none := by
    rw [← hr.named, Option.map_eq_none_iff]
  refine ⟨fun h => ?_, fun h => ?_, ?_, fun h isControl => ?_, fun h modes => ?_, ?_, ?_⟩
  · have hentry : r.live? h = Roster.entryIn slots h := by rw [Roster.live?, hs]; rfl
    rw [← hr.named, hentry, Roster.modeOf, hs]
    cases he : Roster.entryIn slots h with
    | none => simp [he]
    | some e => simp [he, Entry.purpose]
  · rw [← hr.named]
    cases he : r.live? h with
    | none => exact (Roster.enter_unknown_iff hs h false).mpr he
    | some e => exact Roster.enter_of_idle he fun hc => by cases hc
  · intro h isControl g hx
    obtain ⟨_, e, -, he, -, rfl, -⟩ := Roster.enter_ok (Prod.ext hx rfl)
    rw [← hr.named, he]
    exact ⟨rfl, rfl⟩
  · rw [hnamed]
    exact Roster.enter_unknown_iff hs h isControl
  · rw [hnamed]
    exact Roster.revoke_unknown_iff hs h modes
  · intro mode access h hx
    obtain ⟨hnone, -, -⟩ := hr.issue (Prod.ext hx rfl)
    exact (hnamed h).mpr hnone
  · rintro mode access h hx later earlier rfl
    obtain ⟨-, hnow, -⟩ := hr.issue (Prod.ext hx rfl)
    -- The generation is the same as before the revocation, so the frees since come to a multiple.
    have hthen := hr.stamped later h earlier rfl
    have hsplit : timesFreed h.index (later ++ .revoked h :: earlier) =
        timesFreed h.index (later ++ [.revoked h]) + timesFreed h.index earlier := by
      simp [timesFreed, List.countP_append, List.countP_cons]
      omega
    have hpos : 0 < timesFreed h.index (later ++ [.revoked h]) := by
      rw [timesFreed, List.countP_pos_iff]
      exact ⟨.revoked h, by simp, by simp [Registration.frees]⟩
    have hmod := congrArg UInt16.toNat (hnow.symm.trans hthen)
    rw [hsplit, UInt16.toNat_ofNat', UInt16.toNat_ofNat'] at hmod
    exact ⟨timesFreed h.index (later ++ [.revoked h]) / 65536, by omega, by omega⟩

/-! ## Runs -/

namespace Custody

variable {c : Custody} {past : List Registration}

/-- The register after an act. It begins anew when the table is released. -/
def register (c : Custody) (past : List Registration) : Act → List Registration
  | .dissolve =>
    match c.roster.dissolve.1 with
    | .ok _ => []
    | .error _ => past
  | .issue mode access =>
    match (c.roster.issue mode access).1 with
    | .ok h => .issued h mode access :: past
    | .error _ => past
  | .revoke h modes =>
    match (c.roster.revoke h modes).1 with
    | .ok _ => .revoked h :: past
    | .error _ => past
  | _ => past

def enrol (x : Custody × List Registration) (a : Act) : Custody × List Registration :=
  (x.1.act a, x.1.register x.2 a)

theorem enrolled_act (hr : Enrolled c.roster past) (a : Act) : Enrolled (c.act a).roster (c.register past a) := by
  cases a with
  | setUp memory interfaces => exact hr.setUp memory interfaces
  | dissolve =>
    simp only [act, register]
    rcases Roster.dissolve_cases c.roster with ⟨err, hx⟩ | ⟨modes, hx, -⟩ <;> rw [hx]
    · exact hr
    · exact .new rfl rfl hr.fits
  | issue mode access =>
    simp only [act, register]
    rcases Roster.issue_cases mode access c.roster with ⟨err, hx⟩ | ⟨_, _, _, -, -, -, hx⟩ <;> rw [hx]
    · exact hr
    · exact (hr.issue hx).2.2
  | revoke h modes =>
    simp only [act, register]
    rcases Roster.revoke_cases h modes c.roster with ⟨err, hx⟩ | ⟨_, _, -, -, -, -, hx⟩ <;> rw [hx]
    · exact hr
    · exact hr.revoke hx
  | enter h isControl =>
    simp only [act, register]
    split
    · rename_i hx
      exact hr.enter hx
    · exact hr
  | leave g =>
    simp only [act, register]
    split
    · exact hr.leave g
    · exact hr
  | lock => exact hr.of_slots rfl rfl rfl
  | setMode => exact hr.of_slots rfl Option.isSome_map rfl

theorem enrolled_run (acts : List Act) {x : Custody × List Registration} (hr : Enrolled x.1.roster x.2) :
    Enrolled (acts.foldl enrol x).1.roster (acts.foldl enrol x).2 := by
  induction acts generalizing x with
  | nil => exact hr
  | cons a acts ih => exact ih (x := enrol x a) (enrolled_act hr a)

theorem enrol_fst (acts : List Act) (x : Custody × List Registration) :
    (acts.foldl enrol x).1 = acts.foldl act x.1 := by
  induction acts generalizing x with
  | nil => rfl
  | cons a acts ih => exact ih (enrol x a)

/-- Whatever is done with a roster whose table fits the indices of handles: as long as the table is there, a
    handle is known exactly if it was issued and not revoked since, and it stands for what it was last
    issued for. A handle that is issued was not known, and one that was revoked before comes back only
    after its slot was freed a multiple of 65536 times. -/
theorem run_names {quota : Budget} (hq : quota.total ≤ Policy.tableMax) (acts : List Act) :
    let x := acts.foldl enrol ({ roster := { quota } }, [])
    x.1 = acts.foldl act { roster := { quota } } ∧ (x.1.roster.isSetUp = true → Names x.1.roster x.2) := by
  intro x
  refine ⟨enrol_fst acts _, fun hsome => ?_⟩
  exact .of_enrolled (enrolled_run acts (.new rfl rfl hq)) hsome

/-- The first handle is revoked, and another takes its slot. -/
def renamed : List Act :=
  [.setUp Simulation.memory Simulation.Network.twoPortBoard, .issue .normal .control,
    .issue .accessPoint .information,
    .revoke (.make 0 0)
      { normal := { mode := .normal, ethernet := none, wifi := none }
        accessPoint := { mode := .accessPoint, ethernet := none, wifi := none }
        interfaces := [] },
    .issue .normal .information]

theorem renamed_names :
    ({} : Budget).total ≤ Policy.tableMax ∧
    let x := renamed.foldl enrol ({ roster := { quota := {} } }, [])
    (named? (.make 0 0) x.2, named? (.make 0 1) x.2) = (none, some (.normal, .information)) ∧
      x.1.roster.isSetUp = true ∧
      x.1 = renamed.foldl act { roster := { quota := {} } } ∧
      (x.1.roster.isSetUp = true → Names x.1.roster x.2) := by
  have hq : ({} : Budget).total ≤ Policy.tableMax := by decide
  exact ⟨hq, by decide +kernel, by decide +kernel, run_names hq renamed⟩

end Custody

end Connectivity
