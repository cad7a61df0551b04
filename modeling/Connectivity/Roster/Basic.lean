/-
  Connectivity.Roster.Basic — the state of the modes and the table of handles, which exist
  between a `setUp` and the next `dissolve`.

  A handle names a slot and the slot's generation; revoking a handle frees the slot and advances
  its generation, so that the old handle no longer names anything. While an operation works with
  a handle it holds a guard: the handle's count says how many guards there are, and at most one
  guard a mode is for control. A handle with guards is not revoked and the roster not dissolved.

  The mode state is behind a lock that a caller may hold over several operations; operations that
  need it then time out. An operation that gives the lock up for a while may lose it to a caller
  that waits for it.
-/

import Connectivity.Policy
import Connectivity.ModeState

namespace Connectivity

/-- A live handle. -/
structure Entry where
  mode : Mode
  access : Access
  /-- How many guards there are on the handle. -/
  count : UInt32 := 0
  inControl : Bool := false
  deriving DecidableEq, Repr

structure Slot where
  generation : UInt16 := 0
  entry : Option Entry := none
  deriving DecidableEq, Repr

/-- A reference on a handle, held for the time of one operation. -/
structure Guard where
  handle : Handle
  mode : Mode
  access : Access
  isControl : Bool
  deriving DecidableEq, Repr

structure Roster where
  quota : Budget
  modes : Option Modes := none
  slots : Option (List Slot) := none
  /-- Whether a caller holds the lock on the mode state. -/
  locked : Bool := false
  /-- Whether a caller takes the lock as soon as an operation gives it up, and keeps it for longer
      than the operation waits to have it back. -/
  contended : Bool := false
  deriving DecidableEq, Repr

namespace Roster

/-! ## The lock -/

/-- The mode state, taken with a bounded wait. -/
def lock (r : Roster) : Except Error Modes :=
  if r.locked then .error .resourceLockTimeout
  else
    match r.modes with
    | some modes => .ok modes
    | none => .error .notInitialized

/-- The mode state, taken however long it may last. -/
def await (r : Roster) : Except Error Modes :=
  match r.modes with
  | some modes => .ok modes
  | none => .error .notInitialized

/-- An operation that holds the lock gives it up. -/
def yield (r : Roster) : Roster := if r.contended then { r with locked := true } else r

def isSetUp (r : Roster) : Bool := r.modes.isSome

def setMode (r : Roster) (mode : Mode) (m : ModeState) : Roster :=
  { r with modes := r.modes.map (fun modes => modes.set mode m) }

theorem lock_eq_ok {r : Roster} {modes : Modes} (h : r.lock = .ok modes) :
    r.locked = false ∧ r.modes = some modes := by
  unfold lock at h
  split at h
  · cases h
  · rename_i hl
    split at h
    · rename_i modes' hm
      cases h
      exact ⟨by simpa using hl, hm⟩
    · cases h

@[simp] theorem modes_yield (r : Roster) : r.yield.modes = r.modes := by
  unfold yield
  split <;> rfl

@[simp] theorem slots_yield (r : Roster) : r.yield.slots = r.slots := by
  unfold yield
  split <;> rfl

@[simp] theorem quota_yield (r : Roster) : r.yield.quota = r.quota := by
  unfold yield
  split <;> rfl

theorem yield_of_not_contended {r : Roster} (h : r.contended = false) : r.yield = r := by simp [yield, h]

theorem lock_yield_of_contended {r : Roster} (h : r.contended = true) :
    r.yield.lock = .error .resourceLockTimeout := by
  simp [yield, lock, h]

theorem exists_lock {r : Roster} (h : r.locked = false ∧ r.isSetUp = true) : ∃ modes, r.lock = .ok modes := by
  obtain ⟨hlocked, hmodes⟩ := h
  obtain ⟨modes, hmodes⟩ := Option.isSome_iff_exists.mp hmodes
  exact ⟨modes, by simp [lock, hlocked, hmodes]⟩

/-! ## Lifetime -/

/-- Memory, which may refuse room for a table of a given size. It has room for every table whose
    indices fit sixteen bits. -/
structure Memory where
  refusal? : Nat → Option AllocationFault
  roomy : ∀ size ≤ 65535, refusal? size = none

/-- An empty table of the given size. -/
def emptySlots (memory : Memory) (size : Nat) : Except Error (List Slot) :=
  match memory.refusal? size with
  | some fault => .error (.tableAllocation fault)
  | none => .ok (List.replicate size {})

/-- Sets up the mode state and the handle table; false if they are there already. -/
def setUp (memory : Memory) (interfaces : List Interface) (r : Roster) : Except Error Bool × Roster :=
  if r.locked then (.error .resourceLockTimeout, r)
  else if r.isSetUp then (.ok false, r)
  else
    match Modes.ofInterfaces? interfaces with
    | none => (.error .noCloudInterface, r)
    | some modes =>
      match emptySlots memory r.quota.total.toNat with
      | .error e => (.error e, r)
      | .ok slots => (.ok true, { r with modes := some modes, slots := some slots })

/-- Releases the mode state and the handle table, unless a handle is in use; the mode state as it
    was. -/
def dissolve (r : Roster) : Except Error Modes × Roster :=
  if r.locked then (.error .resourceLockTimeout, r)
  else
    match r.modes with
    | none => (.error .notInitialized, r)
    | some modes =>
      let entries := (r.slots.getD []).filterMap (·.entry)
      if entries.any (fun e => 0 < e.count) then (.error .someHandleInUse, r)
      else (.ok modes, { r with modes := none, slots := none })

theorem setUp_error {memory : Memory} {interfaces : List Interface} {r r' : Roster} {err : Error}
    (h : r.setUp memory interfaces = (.error err, r')) : r' = r := by
  simp only [setUp] at h
  (repeat' split at h) <;> cases h
  all_goals rfl

theorem setUp_false {memory : Memory} {interfaces : List Interface} {r r' : Roster}
    (h : r.setUp memory interfaces = (.ok false, r')) : r' = r := by
  simp only [setUp] at h
  (repeat' split at h) <;> cases h
  rfl

theorem setUp_true {memory : Memory} {interfaces : List Interface} {r r' : Roster}
    (h : r.setUp memory interfaces = (.ok true, r')) :
    r.modes = none ∧ ∃ modes, Modes.ofInterfaces? interfaces = some modes ∧ r'.modes = some modes := by
  simp only [setUp] at h
  split at h
  · cases h
  · split at h
    · cases h
    · rename_i hs
      split at h
      · cases h
      · rename_i modes hm
        split at h <;> cases h
        exact ⟨by simpa [isSetUp] using hs, modes, hm, rfl⟩

theorem dissolve_error {r r' : Roster} {err : Error} (h : r.dissolve = (.error err, r')) : r' = r := by
  simp only [dissolve] at h
  (repeat' split at h) <;> cases h
  all_goals rfl

theorem dissolve_ok {r r' : Roster} {modes : Modes} (h : r.dissolve = (.ok modes, r')) :
    r.modes = some modes ∧ r'.modes = none := by
  simp only [dissolve] at h
  split at h
  · cases h
  · split at h
    · cases h
    · rename_i hm
      split at h <;> cases h
      exact ⟨hm, rfl⟩

/-! ## Handles -/

/-- The live handle in a slot, if the slot has the handle's generation. -/
def entryIn (slots : List Slot) (h : Handle) : Option Entry :=
  match slots[h.index]? with
  | some slot => if slot.generation = h.generation then slot.entry else none
  | none => none

/-- What a handle names. -/
def live? (r : Roster) (h : Handle) : Option Entry := r.slots.bind (fun slots => entryIn slots h)

/-- How many handles of a mode and access live. -/
def liveCount (slots : List Slot) (mode : Mode) (access : Access) : Nat :=
  ((slots.filterMap (·.entry)).filter (fun e => e.mode = mode && e.access = access)).length

def setEntry (slots : List Slot) (index : Nat) (e : Entry) : List Slot :=
  slots.modify index (fun slot => { slot with entry := some e })

/-- Makes a handle in the first free slot, if the quota allows one more. -/
def issue (mode : Mode) (access : Access) (r : Roster) : Except Error Handle × Roster :=
  match r.slots with
  | none => (.error .notInitialized, r)
  | some slots =>
    let limit := r.quota.allowed mode access
    if limit.toNat ≤ liveCount slots mode access then
      (.error (.handleLimit mode access limit), r)
    else
      match slots.findIdx? (fun slot => slot.entry.isNone) with
      | none => (.error .noFreeSlot, r)
      | some index =>
        let generation := (slots[index]?.getD {}).generation
        (.ok (.make index generation),
          { r with slots := some (setEntry slots index { mode, access }) })

/-- The mode of a handle. -/
def modeOf (h : Handle) (r : Roster) : Except Error Mode :=
  match r.slots with
  | none => .error .notInitialized
  | some slots =>
    match entryIn slots h with
    | none => .error (.unknownHandle h)
    | some e => .ok e.mode

/-- Takes a handle back. One that is in use stays, and so does a control handle of a mode that is
    connecting or connected. -/
def revoke (h : Handle) (modes : Modes) (r : Roster) : Except Error Unit × Roster :=
  match r.slots with
  | none => (.error .notInitialized, r)
  | some slots =>
    match entryIn slots h with
    | none => (.error (.unknownHandle h), r)
    | some e =>
      let status := (modes.get e.mode).status
      if 0 < e.count then (.error (.handleInUse h), r)
      else if e.access = .control && status.isRunning then
        (.error (.modeRunning e.mode status), r)
      else
        let freed := fun slot : Slot => { generation := slot.generation + 1, entry := none }
        (.ok (), { r with slots := some (slots.modify h.index freed) })

/-! ## Guards -/

/-- Takes a guard on a handle. -/
def enter (h : Handle) (isControl : Bool) (r : Roster) : Except Error Guard × Roster :=
  match r.slots with
  | none => (.error .notInitialized, r)
  | some slots =>
    match entryIn slots h with
    | none => (.error (.unknownHandle h), r)
    | some e =>
      let busy := (slots.filterMap (·.entry)).any (fun o => o.mode = e.mode && o.inControl)
      if isControl && e.access ≠ .control then (.error (.notControlHandle h), r)
      else if isControl && busy then (.error (.controlBusy e.mode), r)
      else
        let e' := { e with count := e.count + 1, inControl := e.inControl || isControl }
        (.ok ⟨h, e.mode, e.access, isControl⟩,
          { r with slots := some (setEntry slots h.index e') })

/-- Gives a guard back. -/
def exit (g : Guard) (r : Roster) : Except Error Roster :=
  match r.slots with
  | none => .error .tableReleased
  | some slots =>
    match entryIn slots g.handle with
    | none => .error (.slotVanished g.handle)
    | some e =>
      if e.count = 0 then .error (.countUnderflow g.handle)
      else
        let e' := { e with count := e.count - 1, inControl := e.inControl && !g.isControl }
        .ok { r with slots := some (setEntry slots g.handle.index e') }

/-- Gives a guard back; a failure is only logged. -/
def leave (g : Guard) (r : Roster) : Roster :=
  match r.exit g with
  | .ok r => r
  | .error _ => r

/-! ## The mode state under handles and guards -/

@[simp] theorem modes_issue (mode : Mode) (access : Access) (r : Roster) :
    (r.issue mode access).2.modes = r.modes := by
  simp only [issue]
  (repeat' split) <;> rfl

@[simp] theorem modes_revoke (h : Handle) (modes : Modes) (r : Roster) :
    (r.revoke h modes).2.modes = r.modes := by
  simp only [revoke]
  (repeat' split) <;> rfl

@[simp] theorem modes_enter (h : Handle) (isControl : Bool) (r : Roster) :
    (r.enter h isControl).2.modes = r.modes := by
  simp only [enter]
  (repeat' split) <;> rfl

@[simp] theorem contended_enter (h : Handle) (isControl : Bool) (r : Roster) :
    (r.enter h isControl).2.contended = r.contended := by
  simp only [enter]
  (repeat' split) <;> rfl

theorem modeOf_enter {h : Handle} {isControl : Bool} {r r' : Roster} {g : Guard}
    (he : r.enter h isControl = (.ok g, r')) : r.modeOf h = .ok g.mode := by
  simp only [enter] at he
  unfold modeOf
  split at he
  · cases he
  · split at he
    · cases he
    · (repeat' split at he) <;> cases he
      rfl

theorem modes_exit {g : Guard} {r r' : Roster} (h : r.exit g = .ok r') : r'.modes = r.modes := by
  simp only [exit] at h
  (repeat' split at h) <;> cases h
  rfl

@[simp] theorem modes_leave (g : Guard) (r : Roster) : (r.leave g).modes = r.modes := by
  unfold leave
  split
  · exact modes_exit ‹_›
  · rfl

end Roster

end Connectivity
