/-
  Connectivity.Proofs.Quotas — as many handles live as the quota allows, and no fewer.
  - `living`: the live handles of a mode and access. In a table whose places fit the index of a handle
    there are as many of them as the table counts (`ncard_living`).
  - `Allotted`: the table has the quota's size and keeps to it. Each act keeps that.
  - `exists_free`: the four limits share the table, so where one of them is not reached a slot is free.
  - `run_rationed`: whatever was done, a handle is refused exactly where its limit is reached, and never for
    want of a slot.
-/

import Mathlib.Data.Set.Card
import Connectivity.Proofs.Lifetimes

namespace Connectivity

/-! ## Counts -/

/-- The slot has a live handle of a mode and access. -/
def Slot.serves (slot : Slot) (mode : Mode) (access : Access) : Bool :=
  slot.entry.any fun e => e.mode = mode && e.access = access

namespace Roster

variable {r r' : Roster} {slots : List Slot} {slot : Slot} {mode : Mode} {access : Access}

theorem liveCount_eq (slots : List Slot) (mode : Mode) (access : Access) :
    liveCount slots mode access = slots.countP fun slot => slot.serves mode access := by
  rw [liveCount, ← List.countP_eq_length_filter, List.countP_filterMap]
  apply List.countP_congr
  intro slot _
  unfold Slot.serves
  cases slot.entry <;> simp

/-- A slot that changes counts as what it is then, and no longer as what it was. -/
theorem liveCount_modify {i : Nat} (hi : slots[i]? = some slot) (f : Slot → Slot) (mode : Mode) (access : Access) :
    liveCount (slots.modify i f) mode access + (if slot.serves mode access then 1 else 0) =
      liveCount slots mode access + if (f slot).serves mode access then 1 else 0 := by
  obtain ⟨hlt, rfl⟩ := List.getElem?_eq_some_iff.mp hi
  have hset : slots.modify i f = slots.set i (f slots[i]) := by
    rw [List.modify_eq_set_getElem?, hi]
    rfl
  have hpos (hserves : slots[i].serves mode access = true) :
      0 < slots.countP fun slot => slot.serves mode access :=
    List.countP_pos_iff.mpr ⟨_, List.getElem_mem hlt, hserves⟩
  rw [liveCount_eq, liveCount_eq, hset, List.countP_set hlt]
  by_cases hserves : slots[i].serves mode access = true
  · have := hpos hserves
    simp only [hserves, if_true]
    omega
  · simp only [hserves, Bool.false_eq_true, if_false]
    omega

/-- Every slot that is not free is counted for one mode and access. -/
theorem sum_liveCount (slots : List Slot) :
    liveCount slots .normal .control + liveCount slots .normal .information +
      liveCount slots .accessPoint .control + liveCount slots .accessPoint .information =
        slots.countP fun slot => slot.entry.isSome := by
  simp only [liveCount_eq]
  induction slots with
  | nil => rfl
  | cons slot slots ih =>
    simp only [List.countP_cons, ← ih]
    obtain ⟨generation, entry⟩ := slot
    cases entry with
    | none =>
      simp [Slot.serves]
    | some e =>
      obtain ⟨mode, access, count, inControl⟩ := e
      cases mode <;> cases access <;> simp [Slot.serves] <;> omega

/-! ## Live handles -/

/-- The live handles of a mode and access. -/
def living (r : Roster) (mode : Mode) (access : Access) : Set Handle :=
  { h | ∃ e, r.live? h = some e ∧ e.mode = mode ∧ e.access = access }

/-- The handles of the slots that have one. -/
def handlesOf (slots : List Slot) (mode : Mode) (access : Access) : List Handle :=
  (slots.zipIdx.filter fun x => x.1.serves mode access).map fun x => .make x.2 x.1.generation

theorem length_handlesOf (slots : List Slot) (mode : Mode) (access : Access) :
    (handlesOf slots mode access).length = liveCount slots mode access := by
  have hfst : slots.zipIdx.map Prod.fst = slots := List.zipIdx_map_fst 0 slots
  rw [handlesOf, List.length_map, ← List.countP_eq_length_filter, liveCount_eq]
  conv_rhs => rw [← hfst, List.countP_map]
  rfl

section
variable (hfits : slots.length ≤ 65536)
include hfits

theorem index_of_mem_zipIdx {x : Slot × Nat} (hx : x ∈ slots.zipIdx) :
    (Handle.make x.2 x.1.generation).index = x.2 := by
  obtain ⟨hlt, -⟩ := List.getElem?_eq_some_iff.mp (List.mem_zipIdx_iff_getElem?.mp hx)
  rw [Handle.index_make, Nat.mod_eq_of_lt (by omega)]

theorem nodup_handlesOf (mode : Mode) (access : Access) : (handlesOf slots mode access).Nodup := by
  have hplaces : slots.zipIdx.Nodup := by
    refine List.Nodup.of_map Prod.snd ?_
    rw [List.zipIdx_map_snd]
    exact List.nodup_range'
  refine List.Nodup.map_on (fun x hx y hy heq => ?_) (hplaces.filter _)
  have hx := List.mem_of_mem_filter hx
  have hy := List.mem_of_mem_filter hy
  have hplace : x.2 = y.2 := by
    rw [← index_of_mem_zipIdx hfits hx, heq, index_of_mem_zipIdx hfits hy]
  have hslot : some x.1 = some y.1 := by
    rw [← List.mem_zipIdx_iff_getElem?.mp hx, hplace, List.mem_zipIdx_iff_getElem?.mp hy]
  exact Prod.ext (Option.some.inj hslot) hplace

theorem mem_handlesOf (hs : r.slots = some slots) {h : Handle} :
    h ∈ handlesOf slots mode access ↔ h ∈ r.living mode access := by
  simp only [handlesOf, List.mem_map, List.mem_filter]
  constructor
  · rintro ⟨x, ⟨hx, hserves⟩, rfl⟩
    obtain ⟨e, he, hpurpose⟩ := (Option.any_eq_true _ _).mp hserves
    rw [Bool.and_eq_true, decide_eq_true_eq, decide_eq_true_eq] at hpurpose
    refine ⟨e, live?_eq_some.mpr ⟨x.1, ?_, (Handle.generation_make _ _).symm, he⟩, hpurpose⟩
    rw [slot?, hs, Option.bind_some, index_of_mem_zipIdx hfits hx]
    exact List.mem_zipIdx_iff_getElem?.mp hx
  · rintro ⟨e, he, rfl, rfl⟩
    obtain ⟨slot, hslot, hg, hentry⟩ := live?_eq_some.mp he
    rw [slot?, hs, Option.bind_some] at hslot
    refine ⟨(slot, h.index), ⟨List.mem_zipIdx_iff_getElem?.mpr hslot, ?_⟩, ?_⟩
    · simp [Slot.serves, hentry]
    · rw [hg, h.make_index_generation]

/-- The table's own count is the number of live handles. -/
theorem ncard_living (hs : r.slots = some slots) (mode : Mode) (access : Access) :
    (r.living mode access).ncard = liveCount slots mode access := by
  have hset : r.living mode access = ↑(handlesOf slots mode access).toFinset := by
    ext h
    rw [List.coe_toFinset, Set.mem_ofPred_eq, mem_handlesOf hfits hs]
  rw [hset, Set.ncard_coe_finset, List.toFinset_card_of_nodup (nodup_handlesOf hfits mode access), length_handlesOf]

end

end Roster

/-! ## Tables within a quota -/

/-- A roster of the quota, whose table has the quota's size and keeps to its limits. -/
structure Allotted (q : Budget) (r : Roster) : Prop where
  quota : r.quota = q
  size : ∀ slots, r.slots = some slots → slots.length = q.total.toNat
  within : ∀ slots, r.slots = some slots →
    ∀ mode access, Roster.liveCount slots mode access ≤ (q.allowed mode access).toNat

namespace Allotted

open Roster

variable {q : Budget} {r r' : Roster} {slots : List Slot} {h : Handle}

theorem of_none (hq : r.quota = q) (hs : r.slots = none) : Allotted q r where
  quota := hq
  size slots hsome := by simp [hs] at hsome
  within slots hsome := by simp [hs] at hsome

theorem of_slots (ha : Allotted q r) (hs : r'.slots = r.slots) (hq : r'.quota = r.quota) : Allotted q r' where
  quota := hq.trans ha.quota
  size slots hsome := ha.size slots (hs ▸ hsome)
  within slots hsome := ha.within slots (hs ▸ hsome)

/-- A slot changes, and is counted anew only for what is below its limit. -/
theorem modify (ha : Allotted q r) (hs : r.slots = some slots) {i : Nat} {slot : Slot} (hi : r.slot? i = some slot)
    (f : Slot → Slot)
    (hf : ∀ mode access, (f slot).serves mode access = true →
      slot.serves mode access = true ∨ liveCount slots mode access < (q.allowed mode access).toNat) :
    Allotted q { r with slots := some (slots.modify i f) } where
  quota := ha.quota
  size slots' hs' := by
    cases hs'
    rw [List.length_modify]
    exact ha.size slots hs
  within slots' hs' mode access := by
    cases hs'
    rw [slot?, hs, Option.bind_some] at hi
    have hcount := liveCount_modify hi f mode access
    have hle := ha.within slots hs mode access
    by_cases hserves : (f slot).serves mode access = true
    · rcases hf mode access hserves with hold | hlt
      · rw [if_pos hold, if_pos hserves] at hcount
        omega
      · rw [if_pos hserves] at hcount
        omega
    · rw [if_neg hserves] at hcount
      omega

/-- A handle's entry changes, but not what it is for. -/
theorem setEntry (ha : Allotted q r) (hs : r.slots = some slots) {e e' : Entry} (he : r.live? h = some e)
    (hp : e'.purpose = e.purpose) : Allotted q { r with slots := some (Roster.setEntry slots h.index e') } := by
  obtain ⟨slot, hslot, -, hentry⟩ := live?_eq_some.mp he
  obtain ⟨hm, haccess⟩ := Prod.mk.inj hp
  refine ha.modify hs hslot _ fun mode access hserves => .inl ?_
  simpa [Slot.serves, hentry, hm, haccess] using hserves

theorem enter (ha : Allotted q r) {isControl : Bool} {g : Guard} (hx : r.enter h isControl = (.ok g, r')) :
    Allotted q r' := by
  obtain ⟨slots, e, hs, he, -, -, rfl⟩ := enter_ok hx
  exact ha.setEntry hs he rfl

theorem leave (ha : Allotted q r) (g : Guard) : Allotted q (r.leave g) := by
  unfold Roster.leave
  split
  · rename_i hx
    obtain ⟨slots, e, hs, he, rfl⟩ := exit_ok hx
    exact ha.setEntry hs he rfl
  · exact ha

theorem lt_of_issue {mode : Mode} {access : Access} (hs : r.slots = some slots)
    (hx : (r.issue mode access).1 = .ok h) : liveCount slots mode access < (r.quota.allowed mode access).toNat := by
  simp only [Roster.issue, hs] at hx
  split at hx
  · cases hx
  · omega

theorem issue (ha : Allotted q r) (mode : Mode) (access : Access) : Allotted q (r.issue mode access).2 := by
  rcases issue_cases mode access r with ⟨err, hx⟩ | ⟨slots, i, slot, hs, hslot, -, hx⟩
  · rw [hx]
    exact ha
  · have hlt := lt_of_issue hs (congrArg Prod.fst hx)
    rw [hx]
    refine ha.modify hs hslot _ fun mode' access' hserves => .inr ?_
    obtain ⟨rfl, rfl⟩ : mode = mode' ∧ access = access' := by simpa [Slot.serves] using hserves
    rw [← ha.quota]
    exact hlt

theorem revoke (ha : Allotted q r) (h : Handle) (modes : Modes) : Allotted q (r.revoke h modes).2 := by
  rcases revoke_cases h modes r with ⟨err, hx⟩ | ⟨slots, e, hs, he, -, -, hx⟩
  · rw [hx]
    exact ha
  · obtain ⟨slot, hslot, -⟩ := live?_eq_some.mp he
    rw [hx]
    refine ha.modify hs hslot freed fun mode access hserves => ?_
    cases hserves

theorem setUp (ha : Allotted q r) (memory : Memory) (interfaces : List Interface) :
    Allotted q (r.setUp memory interfaces).2 := by
  rcases setUp_cases memory interfaces r with ⟨-, hsame⟩ | ⟨modes, -, hx⟩
  · rw [hsame]
    exact ha
  · rw [hx]
    refine ⟨ha.quota, fun slots hs => ?_, fun slots hs mode access => ?_⟩ <;> cases hs
    · rw [List.length_replicate, ha.quota]
    · have hnone : liveCount (List.replicate r.quota.total.toNat {}) mode access = 0 := by
        rw [liveCount_eq, List.countP_replicate]
        rfl
      rw [hnone]
      exact Nat.zero_le _

theorem dissolve (ha : Allotted q r) : Allotted q r.dissolve.2 := by
  rcases dissolve_cases r with ⟨err, hx⟩ | ⟨modes, hx, -⟩ <;> rw [hx]
  · exact ha
  · exact .of_none ha.quota rfl

/-! ## Free slots -/

/-- The slots in use are at most the limits added up, which are all there are: while one limit is not
    reached, not every slot is in use. -/
theorem exists_free (ha : Allotted q r) (hs : r.slots = some slots) {mode : Mode} {access : Access}
    (hlt : liveCount slots mode access < (q.allowed mode access).toNat) :
    ∃ slot ∈ slots, slot.entry = none := by
  by_contra hfull
  have hall : slots.countP (fun slot => slot.entry.isSome) = slots.length := by
    rw [List.countP_eq_length]
    intro slot hslot
    rw [Option.isSome_iff_ne_none]
    exact fun hnone => hfull ⟨slot, hslot, hnone⟩
  rw [← sum_liveCount, ha.size slots hs, q.toNat_total] at hall
  have hwithin := ha.within slots hs
  have hnc : _ ≤ q.normalControl.toNat := hwithin .normal .control
  have hni : _ ≤ q.normalInformation.toNat := hwithin .normal .information
  have hac : _ ≤ q.apControl.toNat := hwithin .accessPoint .control
  have hai : _ ≤ q.apInformation.toNat := hwithin .accessPoint .information
  unfold Quota.sum at hall
  cases mode <;> cases access <;> simp only [Quota.allowed] at hlt <;> omega

theorem issue_of_lt (ha : Allotted q r) (hs : r.slots = some slots) {mode : Mode} {access : Access}
    (hlt : liveCount slots mode access < (q.allowed mode access).toNat) :
    ∃ h, (r.issue mode access).1 = .ok h := by
  obtain ⟨slot, hslot, hnone⟩ := ha.exists_free hs hlt
  have hlimit : ¬ (r.quota.allowed mode access).toNat ≤ liveCount slots mode access := by
    rw [ha.quota]
    omega
  simp only [Roster.issue, hs, if_neg hlimit]
  split
  · rename_i hfind
    have hused := List.findIdx?_eq_none_iff.mp hfind slot hslot
    rw [hnone] at hused
    cases hused
  · exact ⟨_, rfl⟩

theorem issue_of_eq (ha : Allotted q r) (hs : r.slots = some slots) {mode : Mode} {access : Access}
    (heq : liveCount slots mode access = (q.allowed mode access).toNat) :
    (r.issue mode access).1 = .error (.handleLimit mode access (q.allowed mode access)) := by
  simp only [Roster.issue, hs, ha.quota, heq, Nat.le_refl, if_true]

end Allotted

/-! ## Handles within a quota -/

/-- What can be relied on about the handles of a mode and access under a limit. -/
structure Rationed (r : Roster) (mode : Mode) (access : Access) (limit : UInt64) : Prop where
  within : (r.living mode access).ncard ≤ limit.toNat
  /-- One more is refused where the limit is reached, and there alone. -/
  refused : (r.issue mode access).1 = .error (.handleLimit mode access limit) ↔
    (r.living mode access).ncard = limit.toNat
  exhausted : (∃ err, (r.issue mode access).1 = .error err ∧ err.kind = .resourceExhausted) ↔
    (r.living mode access).ncard = limit.toNat
  granted : (∃ h, (r.issue mode access).1 = .ok h) ↔ (r.living mode access).ncard ≠ limit.toNat
  /-- There is always a slot for it. -/
  spare : (r.issue mode access).1 ≠ .error .noFreeSlot

theorem Rationed.of_allotted {q : Budget} {r : Roster} (ha : Allotted q r) (hfits : q.total ≤ Policy.tableMax)
    {slots : List Slot} (hs : r.slots = some slots) (mode : Mode) (access : Access) :
    Rationed r mode access (q.allowed mode access) := by
  have hlength : slots.length ≤ 65536 := by
    have hmax : q.total.toNat ≤ 65535 := hfits
    rw [ha.size slots hs]
    omega
  have hncard := Roster.ncard_living hlength hs mode access
  have hwithin := ha.within slots hs mode access
  rw [← hncard] at hwithin
  by_cases heq : (r.living mode access).ncard = (q.allowed mode access).toNat
  · have hx := ha.issue_of_eq hs (hncard.symm.trans heq)
    rw [hncard] at heq
    constructor <;> simp [hx, hncard, heq, Error.kind]
  · have hlt : Roster.liveCount slots mode access < (q.allowed mode access).toNat := by omega
    obtain ⟨h, hx⟩ := ha.issue_of_lt hs hlt
    rw [hncard] at heq hwithin
    constructor <;> simp [hx, hncard, heq, hwithin]

/-! ## Runs -/

namespace Custody

variable {q : Budget} {c : Custody}

theorem allotted_act (ha : Allotted q c.roster) (a : Act) : Allotted q (c.act a).roster := by
  cases a with
  | setUp memory interfaces => exact ha.setUp memory interfaces
  | dissolve => exact ha.dissolve
  | issue mode access => exact ha.issue mode access
  | revoke h modes => exact ha.revoke h modes
  | enter h isControl =>
    simp only [act]
    split
    · rename_i hx
      exact ha.enter hx
    · exact ha
  | leave g =>
    simp only [act]
    split
    · exact ha.leave g
    · exact ha
  | lock => exact ha.of_slots rfl rfl
  | setMode => exact ha.of_slots rfl rfl

theorem allotted_run (acts : List Act) (ha : Allotted q c.roster) : Allotted q (acts.foldl act c).roster := by
  induction acts generalizing c with
  | nil => exact ha
  | cons a acts ih => exact ih (allotted_act ha a)

/-- Whatever is done with a roster of a valid policy: while it is set up, no more handles of a mode and access
    live than their limit, one more is refused exactly where there are as many, and there is always a slot for
    one that is not refused. -/
theorem run_rationed {p : Policy} (hp : p.validate = some (.ok ())) (acts : List Act)
    (hup : (acts.foldl act { roster := { quota := p.budget hp } }).roster.isSetUp = true) (mode : Mode)
    (access : Access) :
    Rationed (acts.foldl act { roster := { quota := p.budget hp } }).roster mode access
      (p.quota.allowed mode access) := by
  have hfits := Policy.total_budget_le hp
  have ha : Allotted (p.budget hp) (acts.foldl act { roster := { quota := p.budget hp } }).roster :=
    allotted_run acts (.of_none rfl rfl)
  have henrolled := enrolled_run acts (x := ({ roster := { quota := p.budget hp } }, [])) (.new rfl rfl hfits)
  rw [enrol_fst] at henrolled
  obtain ⟨slots, hs⟩ := Option.isSome_iff_exists.mp (henrolled.together.trans hup)
  exact .of_allotted ha hfits hs mode access

/-- One handle for each of three purposes, and none for the fourth. -/
def scant : Policy :=
  { quota := { normalControl := 1, normalInformation := 1, apControl := 1, apInformation := 0 } }

theorem valid_scant : scant.validate = some (.ok ()) := rfl

/-- Two handles are issued, one of them is taken back and another takes its slot, and a guard comes and goes. -/
def reissued : List Act :=
  [.setUp Simulation.memory Simulation.Network.twoPortBoard, .issue .normal .control,
    .issue .normal .information, .enter (.make 1 0) false,
    .revoke (.make 0 0)
      { normal := { mode := .normal, ethernet := none, wifi := none }
        accessPoint := { mode := .accessPoint, ethernet := none, wifi := none }
        interfaces := [] },
    .issue .accessPoint .control, .leave ⟨.make 1 0, .normal, .information, false⟩]

/-- Of the two purposes whose limit is one, the one with a handle is refused and the other gets the last slot. -/
theorem reissued_rationed :
    let r := (reissued.foldl act { roster := { quota := scant.budget valid_scant } }).roster
    r.isSetUp = true ∧
    (r.issue .accessPoint .control).1 = .error (.handleLimit .accessPoint .control 1) ∧
    (r.issue .normal .control).1 = .ok (.make 2 0) ∧
    Rationed r .accessPoint .control 1 ∧ Rationed r .normal .control 1 ∧ Rationed r .accessPoint .information 0 := by
  intro r
  have hup : r.isSetUp = true := by decide +kernel
  have hrationed := run_rationed valid_scant reissued hup
  exact ⟨hup, by decide +kernel, by decide +kernel, hrationed .accessPoint .control, hrationed .normal .control,
    hrationed .accessPoint .information⟩

end Custody

end Connectivity
