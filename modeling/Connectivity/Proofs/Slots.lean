/-
  Connectivity.Proofs.Slots — what each act on a roster does to its table of handles.
  - `slot?`, `at?`: the table read at one index, whether there is a table or not.
  - `enter_ok`, `exit_eq_ok`, `issue_cases`, `revoke_cases`, …: an act that succeeds changes one slot,
    and one that fails changes nothing.
  - `live?_fill`, `live?_freed`: which handles live after a slot was filled in or freed.
  - `Steady`: a handle that lives before an act and after it is as it was. `slots_leave`: a guard that
    is taken and given back leaves the table as it was.
-/

import Mathlib.Algebra.Group.Nat.Defs
import Mathlib.Logic.Basic
import Connectivity.Roster.Basic

namespace Connectivity

namespace Roster

/-! ## Slots -/

def slot? (r : Roster) (i : Nat) : Option Slot := r.slots.bind fun slots => slots[i]?

/-- The live handle's entry in a slot. -/
def at? (r : Roster) (i : Nat) : Option Entry := (r.slot? i).bind (·.entry)

variable {r r' : Roster} {h : Handle} {e : Entry}

/-- Where the table comes and goes with the modes, there is none without them. -/
theorem slots_eq_none (ht : r.slots.isSome = r.modes.isSome) (hm : r.modes = none) : r.slots = none := by
  rw [hm] at ht
  simpa using ht

theorem live?_eq (r : Roster) (h : Handle) :
    r.live? h = (r.slot? h.index).bind fun slot => if slot.generation = h.generation then slot.entry else none := by
  unfold live? slot? entryIn
  cases r.slots with
  | none => rfl
  | some slots => cases hs : slots[h.index]? <;> simp [hs]

theorem live?_eq_some :
    r.live? h = some e ↔
      ∃ slot, r.slot? h.index = some slot ∧ slot.generation = h.generation ∧ slot.entry = some e := by
  rw [live?_eq]
  cases r.slot? h.index <;> simp

theorem at?_of_live? (he : r.live? h = some e) : r.at? h.index = some e := by
  obtain ⟨slot, hs, -, hslot⟩ := live?_eq_some.mp he
  simp [at?, hs, hslot]

/-- A slot has one live handle. -/
theorem handle_eq_of_live? {h' : Handle} {e' : Entry} (he : r.live? h = some e) (he' : r.live? h' = some e')
    (hi : h.index = h'.index) : h = h' := by
  obtain ⟨slot, hs, hg, -⟩ := live?_eq_some.mp he
  obtain ⟨slot', hs', hg', -⟩ := live?_eq_some.mp he'
  rw [← hi, hs] at hs'
  obtain rfl : slot = slot' := Option.some.inj hs'
  rw [← h.make_index_generation, ← h'.make_index_generation, ← hg, ← hg', hi]

theorem slot?_congr (hs : r'.slots = r.slots) (i : Nat) : r'.slot? i = r.slot? i := by
  simp [slot?, hs]

theorem at?_congr (hs : r'.slots = r.slots) (i : Nat) : r'.at? i = r.at? i := by
  simp [at?, slot?_congr hs]

theorem live?_congr (hs : r'.slots = r.slots) (h : Handle) : r'.live? h = r.live? h := by
  simp [live?, hs]

/-- A table in which one slot was changed. -/
theorem slot?_modify {slots : List Slot} (hs : r.slots = some slots) (i : Nat) (f : Slot → Slot) (j : Nat) :
    ({ r with slots := some (slots.modify i f) } : Roster).slot? j =
      if i = j then (r.slot? j).map f else r.slot? j := by
  simp only [slot?, hs, Option.bind_some, List.getElem?_modify]
  split
  · rfl
  · simp

/-- The slots of a table that is filled in at one place. -/
theorem slot?_setEntry {slots : List Slot} (hs : r.slots = some slots) (i : Nat) (e : Entry) (j : Nat) :
    ({ r with slots := some (setEntry slots i e) } : Roster).slot? j =
      if i = j then (r.slot? j).map fun slot => { slot with entry := some e } else r.slot? j :=
  slot?_modify hs i _ j

theorem at?_setEntry {slots : List Slot} (hs : r.slots = some slots) {i : Nat} {slot : Slot}
    (hi : r.slot? i = some slot) (e : Entry) (j : Nat) :
    ({ r with slots := some (setEntry slots i e) } : Roster).at? j = if i = j then some e else r.at? j := by
  unfold at?
  rw [slot?_setEntry hs]
  by_cases hij : i = j
  · subst hij
    simp [hi]
  · simp [hij]

/-- Filling a slot in makes the handle with its index and generation live, and no other. -/
theorem live?_fill {slots : List Slot} (hs : r.slots = some slots) {h : Handle} {slot : Slot}
    (hslot : r.slot? h.index = some slot) (hg : slot.generation = h.generation) (e : Entry) (h' : Handle) :
    ({ r with slots := some (setEntry slots h.index e) } : Roster).live? h' =
      if h = h' then some e else r.live? h' := by
  rw [live?_eq, live?_eq r h', slot?_setEntry hs]
  by_cases hi : h.index = h'.index
  · rw [if_pos hi, ← hi, hslot]
    by_cases hh : h = h'
    · subst hh
      simp [hg]
    · have hne : slot.generation ≠ h'.generation := by
        intro hg'
        apply hh
        rw [← h.make_index_generation, ← h'.make_index_generation, ← hg, hg', hi]
      simp [hh, hne]
  · have hh : h ≠ h' := by
      rintro rfl
      exact hi rfl
    rw [if_neg hi, if_neg hh]

theorem live?_setEntry {slots : List Slot} (hs : r.slots = some slots) {h : Handle} {e : Entry}
    (he : r.live? h = some e) (e' : Entry) (h' : Handle) :
    ({ r with slots := some (setEntry slots h.index e') } : Roster).live? h' =
      if h = h' then some e' else r.live? h' := by
  obtain ⟨slot, hslot, hg, -⟩ := live?_eq_some.mp he
  exact live?_fill hs hslot hg e' h'

theorem entryIn_eq_none {slots : List Slot} (hs : r.slots = some slots) (h : Handle) :
    entryIn slots h = none ↔ r.live? h = none := by
  simp [live?, hs]

theorem mem_entries {slots : List Slot} (hs : r.slots = some slots) :
    e ∈ slots.filterMap (·.entry) ↔ ∃ i, r.at? i = some e := by
  rw [List.mem_filterMap]
  simp only [at?, slot?, hs, Option.bind_some, Option.bind_eq_some_iff]
  constructor
  · rintro ⟨slot, hmem, he⟩
    obtain ⟨i, hi⟩ := List.mem_iff_getElem?.mp hmem
    exact ⟨i, slot, hi, he⟩
  · rintro ⟨i, slot, hi, he⟩
    exact ⟨slot, List.mem_of_getElem? hi, he⟩

/-! ## Guards taken and given back -/

/-- A handle's entry with one more guard. -/
def entered (e : Entry) (isControl : Bool) : Entry :=
  { e with count := e.count + 1, inControl := e.inControl || isControl }

/-- A handle's entry with one guard less. -/
def exited (e : Entry) (isControl : Bool) : Entry :=
  { e with count := e.count - 1, inControl := e.inControl && !isControl }

/-- No handle of a mode is in use for control. -/
def Idle (r : Roster) (mode : Mode) : Prop := ∀ i e, r.at? i = some e → e.mode = mode → e.inControl = false

theorem idle_iff_any {slots : List Slot} (hs : r.slots = some slots) (mode : Mode) :
    r.Idle mode ↔ (slots.filterMap (·.entry)).any (fun o => o.mode = mode && o.inControl) = false := by
  rw [List.any_eq_false]
  constructor
  · intro hidle o ho
    obtain ⟨i, hi⟩ := (mem_entries hs).mp ho
    have hin := hidle i o hi
    simpa using hin
  · intro hidle i o hi hm
    have hin := hidle o ((mem_entries hs).mpr ⟨i, hi⟩)
    simpa [hm] using hin

theorem enter_ok {isControl : Bool} {g : Guard} (hx : r.enter h isControl = (.ok g, r')) :
    ∃ slots e, r.slots = some slots ∧ r.live? h = some e ∧
      (isControl = true → e.access = .control ∧ r.Idle e.mode) ∧ g = ⟨h, e.mode, e.access, isControl⟩ ∧
      r' = { r with slots := some (setEntry slots h.index (entered e isControl)) } := by
  simp only [enter] at hx
  split at hx
  · cases hx
  · rename_i slots hs
    split at hx
    · cases hx
    · rename_i e he
      split at hx
      · cases hx
      · rename_i ha
        split at hx
        · cases hx
        · rename_i hb
          cases hx
          refine ⟨slots, e, hs, ?_, ?_, rfl, rfl⟩
          · rw [live?, hs]
            exact he
          · rintro rfl
            rw [Bool.true_and, Bool.not_eq_true] at hb
            rw [Bool.true_and, decide_eq_true_eq, not_not] at ha
            exact ⟨ha, (idle_iff_any hs e.mode).mpr hb⟩

theorem enter_of_idle {isControl : Bool} (he : r.live? h = some e)
    (hc : isControl = true → e.access = .control ∧ r.Idle e.mode) :
    (r.enter h isControl).1 = .ok ⟨h, e.mode, e.access, isControl⟩ := by
  obtain ⟨slots, hs, hin⟩ := Option.bind_eq_some_iff.mp he
  simp only [enter, hs, hin]
  cases isControl with
  | false => rfl
  | true =>
    obtain ⟨ha, hidle⟩ := hc rfl
    rw [(idle_iff_any hs e.mode).mp hidle, ha]
    rfl

theorem exit_eq_ok {slots : List Slot} {g : Guard} (hs : r.slots = some slots) (he : r.live? g.handle = some e)
    (hc : 0 < e.count.toNat) :
    r.exit g = .ok { r with slots := some (setEntry slots g.handle.index (exited e g.isControl)) } := by
  have hentry : entryIn slots g.handle = some e := by simpa [live?, hs] using he
  have hne : e.count ≠ 0 := by
    intro h0
    rw [h0] at hc
    exact absurd hc (by decide)
  simp [exit, hs, hentry, hne, exited]

theorem exit_ok {g : Guard} (hx : r.exit g = .ok r') :
    ∃ slots e, r.slots = some slots ∧ r.live? g.handle = some e ∧
      r' = { r with slots := some (setEntry slots g.handle.index (exited e g.isControl)) } := by
  simp only [exit] at hx
  split at hx
  · cases hx
  · rename_i slots hs
    split at hx
    · cases hx
    · rename_i e he
      split at hx <;> cases hx
      refine ⟨slots, e, hs, ?_, rfl⟩
      rw [live?, hs]
      exact he

/-- Where there is a table, exactly the handles that do not live are unknown. -/
theorem enter_unknown_iff {slots : List Slot} (hs : r.slots = some slots) (h : Handle) (isControl : Bool) :
    (r.enter h isControl).1 = .error (.unknownHandle h) ↔ r.live? h = none := by
  rw [← entryIn_eq_none hs]
  simp only [enter, hs]
  split
  · rename_i he
    exact ⟨fun _ => he, fun _ => rfl⟩
  · rename_i he
    rw [he]
    (repeat' split) <;> constructor <;> intro h <;> cases h

/-! ## Handles made and taken back -/

/-- A handle is made in a slot that is free, with the slot's generation. -/
theorem issue_cases (mode : Mode) (access : Access) (r : Roster) :
    (∃ err, r.issue mode access = (.error err, r)) ∨
    ∃ slots i slot, r.slots = some slots ∧ r.slot? i = some slot ∧ slot.entry = none ∧
      r.issue mode access =
        (.ok (.make i slot.generation), { r with slots := some (setEntry slots i { mode, access }) }) := by
  simp only [issue]
  split
  · exact .inl ⟨_, rfl⟩
  · rename_i slots hs
    split
    · exact .inl ⟨_, rfl⟩
    · split
      · exact .inl ⟨_, rfl⟩
      · rename_i i hi
        obtain ⟨hlt, hnone, -⟩ := List.findIdx?_eq_some_iff_getElem.mp hi
        refine .inr ⟨slots, i, slots[i], hs, ?_, Option.isNone_iff_eq_none.mp hnone, ?_⟩
        · rw [slot?, hs, Option.bind_some, List.getElem?_eq_getElem hlt]
        · rw [List.getElem?_eq_getElem hlt, Option.getD_some]

/-- A slot whose handle was taken back. -/
def freed (slot : Slot) : Slot := { generation := slot.generation + 1, entry := none }

theorem revoke_cases (h : Handle) (modes : Modes) (r : Roster) :
    (∃ err, r.revoke h modes = (.error err, r)) ∨
    ∃ slots e, r.slots = some slots ∧ r.live? h = some e ∧ e.count = 0 ∧
      (e.access = .control → (modes.get e.mode).status.isRunning = false) ∧
      r.revoke h modes = (.ok (), { r with slots := some (slots.modify h.index freed) }) := by
  simp only [revoke]
  split
  · exact .inl ⟨_, rfl⟩
  · rename_i slots hs
    split
    · exact .inl ⟨_, rfl⟩
    · rename_i e he
      split
      · exact .inl ⟨_, rfl⟩
      · rename_i hc
        split
        · exact .inl ⟨_, rfl⟩
        · rename_i hrun
          have hentry : r.live? h = some e := by
            rw [live?, hs]
            exact he
          have hzero : e.count = 0 := by
            rw [UInt32.not_lt] at hc
            exact UInt32.le_zero_iff.mp hc
          refine .inr ⟨slots, e, hs, hentry, hzero, fun ha => ?_, rfl⟩
          simpa [ha] using hrun

theorem revoke_unknown_iff {slots : List Slot} (hs : r.slots = some slots) (h : Handle) (modes : Modes) :
    (r.revoke h modes).1 = .error (.unknownHandle h) ↔ r.live? h = none := by
  rw [← entryIn_eq_none hs]
  simp only [revoke, hs]
  split
  · rename_i he
    exact ⟨fun _ => he, fun _ => rfl⟩
  · rename_i he
    rw [he]
    (repeat' split) <;> constructor <;> intro h <;> cases h

/-- The handle that is taken back lives no more, and the others live on. -/
theorem live?_freed {slots : List Slot} (hs : r.slots = some slots) (he : r.live? h = some e) (h' : Handle) :
    ({ r with slots := some (slots.modify h.index freed) } : Roster).live? h' =
      if h = h' then none else r.live? h' := by
  obtain ⟨slot, hslot, hg, -⟩ := live?_eq_some.mp he
  rw [live?_eq, slot?_modify hs]
  by_cases hi : h.index = h'.index
  · rw [if_pos hi, ← hi, hslot]
    have hnone : r.live? h' = none ∨ h = h' := by
      cases he' : r.live? h' with
      | none => exact .inl rfl
      | some e' => exact .inr (handle_eq_of_live? he he' hi)
    rcases hnone with hnone | rfl
    · simp [freed, hnone]
    · simp [freed]
  · have hh : h ≠ h' := by
      rintro rfl
      exact hi rfl
    rw [if_neg hi, if_neg hh, ← live?_eq]

theorem setUp_cases (memory : Memory) (interfaces : List Interface) (r : Roster) :
    ((r.setUp memory interfaces).1 ≠ .ok true ∧ (r.setUp memory interfaces).2 = r) ∨
    ∃ modes, r.modes = none ∧
      r.setUp memory interfaces =
        (.ok true, { r with modes := some modes, slots := some (List.replicate r.quota.total.toNat {}) }) := by
  cases hx : r.setUp memory interfaces with
  | mk answer r' =>
    cases answer with
    | error err => exact .inl ⟨nofun, setUp_error hx⟩
    | ok fresh =>
      cases fresh with
      | false => exact .inl ⟨nofun, setUp_false hx⟩
      | true =>
        obtain ⟨hm, modes, -, hm'⟩ := setUp_true hx
        simp only [setUp] at hx
        (repeat' split at hx) <;> cases hx
        rename_i slots hslots
        unfold emptySlots at hslots
        (repeat' split at hslots) <;> cases hslots
        exact .inr ⟨_, hm, rfl⟩

theorem dissolve_cases (r : Roster) :
    (∃ err, r.dissolve = (.error err, r)) ∨
    ∃ modes, r.dissolve = (.ok modes, { r with modes := none, slots := none }) ∧
      ∀ i e, r.at? i = some e → e.count = 0 := by
  simp only [dissolve]
  split
  · exact .inl ⟨_, rfl⟩
  · split
    · exact .inl ⟨_, rfl⟩
    · rename_i modes _
      split
      · exact .inl ⟨_, rfl⟩
      · rename_i hfree
        refine .inr ⟨modes, rfl, fun i e he => ?_⟩
        cases hs : r.slots with
        | none => simp [at?, slot?, hs] at he
        | some slots =>
          rw [hs, Option.getD_some, Bool.not_eq_true, List.any_eq_false] at hfree
          have hc := hfree e ((mem_entries hs).mpr ⟨i, he⟩)
          rw [decide_eq_true_eq, UInt32.not_lt] at hc
          exact UInt32.le_zero_iff.mp hc

/-! ## Handles that live on -/

/-- What lived before and lives after is as it was. -/
def Steady (r r' : Roster) : Prop := ∀ h e e', r.live? h = some e → r'.live? h = some e' → e' = e

theorem Steady.of_slots (hs : r'.slots = r.slots) : Steady r r' := by
  intro h e e' he he'
  rw [live?_congr hs, he] at he'
  exact (Option.some.inj he').symm

theorem Steady.of_modify {slots : List Slot} (hs : r.slots = some slots) (i : Nat) {f : Slot → Slot}
    (hf : r.at? i = none ∨ ∀ slot, (f slot).entry = none) : Steady r { r with slots := some (slots.modify i f) } := by
  intro h e e' he he'
  by_cases hi : i = h.index
  · subst hi
    have hat := at?_of_live? he
    have hat' := at?_of_live? he'
    rw [at?, slot?_modify hs, if_pos rfl] at hat'
    obtain ⟨slot, hmap, hslot⟩ := Option.bind_eq_some_iff.mp hat'
    obtain ⟨slot₀, -, rfl⟩ := Option.map_eq_some_iff.mp hmap
    rcases hf with hf | hf
    · rw [hat] at hf
      cases hf
    · rw [hf] at hslot
      cases hslot
  · rw [live?_eq, slot?_modify hs, if_neg hi, ← live?_eq, he] at he'
    exact (Option.some.inj he').symm

theorem Steady.issue (mode : Mode) (access : Access) (r : Roster) : Steady r (r.issue mode access).2 := by
  rcases issue_cases mode access r with ⟨err, hx⟩ | ⟨slots, i, slot, hs, hslot, hfree, hx⟩
  · rw [hx]
    exact .of_slots rfl
  · rw [hx]
    exact .of_modify hs i (.inl (by simp [at?, hslot, hfree]))

theorem Steady.revoke (h : Handle) (modes : Modes) (r : Roster) : Steady r (r.revoke h modes).2 := by
  rcases revoke_cases h modes r with ⟨err, hx⟩ | ⟨slots, e, hs, -, -, -, hx⟩
  · rw [hx]
    exact .of_slots rfl
  · rw [hx]
    exact .of_modify hs h.index (.inr fun _ => rfl)

theorem Steady.of_none (hs : r.slots = none ∨ r'.slots = none) : Steady r r' := by
  intro h e e' he he'
  rcases hs with hs | hs
  · simp [live?, hs] at he
  · simp [live?, hs] at he'

theorem quota_enter {isControl : Bool} {g : Guard} (hx : r.enter h isControl = (.ok g, r')) : r'.quota = r.quota := by
  obtain ⟨_, _, -, -, -, -, rfl⟩ := enter_ok hx
  rfl

theorem quota_leave (g : Guard) (r : Roster) : (r.leave g).quota = r.quota := by
  unfold leave
  split
  · rename_i hx
    obtain ⟨_, _, -, -, rfl⟩ := exit_ok hx
    rfl
  · rfl

/-- A guard that is given back leaves the table as it was before it was taken. -/
theorem slots_leave {isControl : Bool} {g : Guard} (hx : r.enter h isControl = (.ok g, r'))
    (hfew : ∀ e, r.live? h = some e → e.count.toNat + 1 < 2 ^ 32) {r'' : Roster} (hs : r''.slots = r'.slots) :
    (r''.leave g).slots = r.slots := by
  obtain ⟨slots, e, hslots, he, hc, rfl, rfl⟩ := enter_ok hx
  have hlt := hfew e he
  have he' : r''.live? h = some (entered e isControl) := by
    rw [live?_congr hs, live?_setEntry hslots he, if_pos rfl]
  have hcount : 0 < (entered e isControl).count.toNat := by
    simp only [entered, UInt32.toNat_add, UInt32.toNat_one]
    omega
  have hback : exited (entered e isControl) isControl = e := by
    have hone : e.count + 1 - 1 = e.count := UInt32.add_sub_cancel _ _
    cases isControl with
    | false => simp [exited, entered, hone]
    | true =>
      have hin : e.inControl = false := (hc rfl).2 _ e (at?_of_live? he) rfl
      simp [exited, entered, hone, ← hin]
  have hexit := exit_eq_ok (g := ⟨h, e.mode, e.access, isControl⟩) hs he' hcount
  simp only [leave, hexit, hback, hslots, Option.some.injEq, setEntry]
  obtain ⟨slot, hslot, -, hentry⟩ := live?_eq_some.mp he
  rw [slot?, hslots, Option.bind_some] at hslot
  ext1 j
  rw [List.getElem?_modify, List.getElem?_modify]
  by_cases hj : h.index = j
  · subst hj
    simp [hslot, ← hentry]
  · simp [hj]

end Roster

end Connectivity
