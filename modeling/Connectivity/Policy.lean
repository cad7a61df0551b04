/-
  Connectivity.Policy — how the control plane is to behave: bounds on waiting, the spacing of
  retries, and how many handles there may be. A board changes it in a TOML document; what the
  document leaves out keeps its default and keys that mean nothing here are passed over.

  Numbers are words of 64 bits. The program is built with overflow checks: where a sum leaves the
  word it stops there, and a function that adds limits up answers nothing.
-/

import Connectivity.Error
import Connectivity.Toml.Value

namespace Connectivity

/-- The most handles that may live at once, for each mode and access. -/
structure Quota where
  normalControl : UInt64 := 2
  normalInformation : UInt64 := 4
  apControl : UInt64 := 2
  apInformation : UInt64 := 4
  deriving DecidableEq, Repr

namespace Quota

def allowed (q : Quota) : Mode → Access → UInt64
  | .normal, .control => q.normalControl
  | .normal, .information => q.normalInformation
  | .accessPoint, .control => q.apControl
  | .accessPoint, .information => q.apInformation

/-- The sum of two words, if a word holds it. -/
def add? (a b : UInt64) : Option UInt64 :=
  if a.toNat + b.toNat < UInt64.size then some (a + b) else none

theorem add?_eq_some_iff {a b c : UInt64} : add? a b = some c ↔ c.toNat = a.toNat + b.toNat := by
  have hc := c.toNat_lt_size
  unfold add?
  split
  · rename_i hfits
    rw [Option.some.injEq, ← UInt64.toNat_inj, UInt64.toNat_add, Nat.mod_eq_of_lt hfits, eq_comm]
  · simp only [reduceCtorEq, false_iff]
    omega

/-- The size of the handle table. The limits are added up one after the other; the program stops
    where a sum leaves the word. -/
def total? (q : Quota) : Option UInt64 := do
  let normal ← add? q.normalControl q.normalInformation
  let control ← add? normal q.apControl
  add? control q.apInformation

/-- The limits added up as they are. -/
def sum (q : Quota) : Nat :=
  q.normalControl.toNat + q.normalInformation.toNat + q.apControl.toNat + q.apInformation.toNat

/-- Where the program goes on, nothing was lost on the way. -/
theorem total?_eq_some_iff {q : Quota} {total : UInt64} : q.total? = some total ↔ total.toNat = q.sum := by
  simp only [total?, sum, bind, Option.bind_eq_some_iff, add?_eq_some_iff]
  constructor
  · rintro ⟨normal, hnormal, control, hcontrol, htotal⟩
    omega
  · intro htotal
    have hlt := total.toNat_lt_size
    have word (n : Nat) (hn : n < UInt64.size) : ∃ w : UInt64, w.toNat = n :=
      ⟨.ofNat n, UInt64.toNat_ofNat_of_lt' hn⟩
    obtain ⟨normal, hnormal⟩ := word (q.normalControl.toNat + q.normalInformation.toNat) (by omega)
    obtain ⟨control, hcontrol⟩ := word (normal.toNat + q.apControl.toNat) (by omega)
    exact ⟨normal, hnormal, control, hcontrol, by omega⟩

/-- The program stops where the limits add up past a word, and there alone. -/
theorem total?_eq_none_iff {q : Quota} : q.total? = none ↔ UInt64.size ≤ q.sum := by
  constructor
  · intro hnone
    refine Nat.le_of_not_lt fun hlt => ?_
    have hsum : (UInt64.ofNat q.sum).toNat = q.sum := UInt64.toNat_ofNat_of_lt' hlt
    rw [total?_eq_some_iff.mpr hsum] at hnone
    cases hnone
  · intro hpast
    rw [Option.eq_none_iff_forall_ne_some]
    intro total htotal
    have hlt := total.toNat_lt_size
    have hsum := total?_eq_some_iff.mp htotal
    omega

end Quota

/-- Limits that could be added up. -/
structure Budget extends Quota where
  /-- The size of the handle table. -/
  total : UInt64 := toQuota.total?.getD 0
  total?_eq : toQuota.total? = some total := by rfl
  deriving DecidableEq, Repr

theorem Budget.toNat_total (b : Budget) : b.total.toNat = b.sum := Quota.total?_eq_some_iff.mp b.total?_eq

structure LogSettings where
  level : String := "info"
  json : Bool := false
  ansi : Bool := true
  deriving DecidableEq, Repr

structure Policy where
  resourceLockTimeout : UInt64 := 10000
  handleLockTimeout : UInt64 := 10000
  /-- How long a stop waits for the pre-teardown event, in milliseconds. -/
  stopPreTimeout : UInt64 := 10000
  /-- The least time between attempts of a failed lease phase, in seconds. -/
  retryInterval : UInt64 := 60
  notifyQueueDepth : UInt64 := 16
  quota : Quota := {}
  logging : LogSettings := {}
  deriving DecidableEq, Repr

namespace Policy

/-- The retry interval in nanoseconds. -/
def retryNanos (p : Policy) : Nat := second * p.retryInterval.toNat

/-- The largest handle table, whose every index fits sixteen bits. -/
def tableMax : UInt64 := 65535

/-- The first thing that is wrong with a policy before its limits are added up. -/
def fault? (p : Policy) : Option PolicyFault :=
  if p.notifyQueueDepth = 0 then some .noNotifyQueue
  else if p.retryInterval = 0 then some .noRetryInterval
  else
    (Mode.all.find? (fun mode => p.quota.allowed mode .control = 0)).map .noControlHandle

/-- Accepts a policy or says what is wrong with it; none if the program stops as it adds the limits
    up. -/
def validate (p : Policy) : Option (Except Error Unit) :=
  match p.fault? with
  | some fault => some (.error (.badPolicy fault))
  | none =>
    p.quota.total?.map (fun total =>
      if tableMax < total then .error (.badPolicy .tableTooLarge) else .ok ())

theorem fault?_eq_none_iff {p : Policy} :
    p.fault? = none ↔
      p.notifyQueueDepth ≠ 0 ∧ p.retryInterval ≠ 0 ∧ ∀ mode, p.quota.allowed mode .control ≠ 0 := by
  have hcontrols : Mode.all.find? (fun mode => p.quota.allowed mode .control = 0) = none ↔
      ∀ mode, p.quota.allowed mode .control ≠ 0 := by
    simp only [List.find?_eq_none, decide_eq_true_eq]
    exact ⟨fun h mode => h mode (by cases mode <;> decide), fun h mode _ => h mode⟩
  rw [← hcontrols]
  unfold fault?
  by_cases hqueue : p.notifyQueueDepth = 0
  · simp [hqueue]
  · by_cases hretry : p.retryInterval = 0
    · simp [hqueue, hretry]
    · simp [hqueue, hretry]

/-- A policy is accepted if nothing of it is zero that may not be, and if its limits can be added up and make
    a table that is no larger than one can be. -/
theorem validate_eq_ok_iff {p : Policy} :
    p.validate = some (.ok ()) ↔
      p.notifyQueueDepth ≠ 0 ∧ p.retryInterval ≠ 0 ∧ (∀ mode, p.quota.allowed mode .control ≠ 0) ∧
        ∃ total, p.quota.total? = some total ∧ total ≤ tableMax := by
  have htable (total : UInt64) :
      (if tableMax < total then .error (.badPolicy .tableTooLarge) else .ok () : Except Error Unit) = .ok () ↔
        total ≤ tableMax := by
    rw [← UInt64.not_lt]
    split <;> simp [*]
  have hsplit : p.validate = some (.ok ()) ↔
      p.fault? = none ∧ ∃ total, p.quota.total? = some total ∧ total ≤ tableMax := by
    unfold validate
    cases p.fault? with
    | some fault => simp
    | none => simp [Option.map_eq_some_iff, htable]
  rw [hsplit, fault?_eq_none_iff, and_assoc, and_assoc]

theorem exists_total {p : Policy} (h : p.validate = some (.ok ())) :
    ∃ total, p.quota.total? = some total ∧ total ≤ tableMax :=
  (validate_eq_ok_iff.mp h).2.2.2

/-- The limits of a policy that was accepted. -/
def budget (p : Policy) (h : p.validate = some (.ok ())) : Budget where
  toQuota := p.quota
  total?_eq := by
    obtain ⟨total, htotal, -⟩ := exists_total h
    rw [htotal, Option.getD_some]

@[simp] theorem toQuota_budget {p : Policy} (h : p.validate = some (.ok ())) : (p.budget h).toQuota = p.quota := rfl

theorem total_budget_le {p : Policy} (h : p.validate = some (.ok ())) : (p.budget h).total ≤ tableMax := by
  obtain ⟨total, htotal, hle⟩ := exists_total h
  have heq : (p.budget h).total = total := by simp [budget, htotal]
  exact heq ▸ hle

end Policy

/-! ## From a TOML document -/

namespace Toml

/-- A value that stands for a record: the rows of a table by their keys, or the items of an array
    by their places. A date-time is a table of one key that means nothing here. -/
inductive Fields where
  | byName (rows : Rows)
  | byPlace (items : List Value)

def Value.fields? : Value → Option Fields
  | .table _ rows => some (.byName rows)
  | .tables items => some (.byPlace (items.map (Value.table .header)))
  | .array items => some (.byPlace items)
  | .dateTime => some (.byName [])
  | _ => none

/-- A field of a record by its name or its place, read by `read`, or its default. -/
def Fields.get {α : Type} (fs : Fields) (name : String) (place : Nat) (default : α)
    (read : Value → Option α) : Option α :=
  let found :=
    match fs with
    | .byName rows => rows.value? name
    | .byPlace items => items[place]?
  match found with
  | some v => read v
  | none => some default

/-- An integer that is not negative; a document holds none past 63 bits. -/
def Value.word? : Value → Option UInt64
  | .integer n => if 0 ≤ n then some (UInt64.ofNat n.toNat) else none
  | _ => none

def Value.text? : Value → Option String
  | .text s => some s
  | _ => none

def Value.boolean? : Value → Option Bool
  | .boolean b => some b
  | _ => none

end Toml

open Toml (Fields Value)

def Quota.ofToml? (v : Value) : Option Quota := do
  let d : Quota := {}
  let fs ← v.fields?
  let normalControl ← fs.get "normal_control" 0 d.normalControl Value.word?
  let normalInformation ← fs.get "normal_information" 1 d.normalInformation Value.word?
  let apControl ← fs.get "access_point_control" 2 d.apControl Value.word?
  let apInformation ← fs.get "access_point_information" 3 d.apInformation Value.word?
  return { normalControl, normalInformation, apControl, apInformation }

def LogSettings.ofToml? (v : Value) : Option LogSettings := do
  let d : LogSettings := {}
  let fs ← v.fields?
  let level ← fs.get "level" 0 d.level Value.text?
  let json ← fs.get "json" 1 d.json Value.boolean?
  let ansi ← fs.get "ansi" 2 d.ansi Value.boolean?
  return { level, json, ansi }

namespace Policy

def ofRows? (rows : Toml.Rows) : Option Policy := do
  let d : Policy := {}
  let fs := Fields.byName rows
  let resourceLockTimeout ←
    fs.get "resource_lock_timeout_ms" 0 d.resourceLockTimeout Value.word?
  let handleLockTimeout ← fs.get "handle_lock_timeout_ms" 1 d.handleLockTimeout Value.word?
  let stopPreTimeout ← fs.get "stop_pre_timeout_ms" 2 d.stopPreTimeout Value.word?
  let retryInterval ← fs.get "dhcp_retry_interval_secs" 3 d.retryInterval Value.word?
  let notifyQueueDepth ← fs.get "notify_queue_depth" 4 d.notifyQueueDepth Value.word?
  let quota ← fs.get "handle_limits" 5 d.quota Quota.ofToml?
  let logging ← fs.get "logging" 6 d.logging LogSettings.ofToml?
  return { resourceLockTimeout, handleLockTimeout, stopPreTimeout, retryInterval,
           notifyQueueDepth, quota, logging }

/-- The policy of a document, if it is one and is valid. What the text says is for `parse` to tell. -/
def ofToml (parse : String → Option Toml.Rows) (text : String) : Option (Except Error Policy) :=
  match (parse text).bind ofRows? with
  | none => some (.error (.badPolicy .unreadable))
  | some p => p.validate.map (fun answer => answer.map (fun _ => p))

/-- The policy of a file, given what reading the file gave. -/
def ofFile (parse : String → Option Toml.Rows) (path : String) :
    Except FileFault String → Option (Except Error Policy)
  | .error fault => some (.error (.file path fault))
  | .ok text => ofToml parse text

/-- Whatever a document is taken to say, a policy that comes of it is valid. -/
theorem validate_of_ofToml {parse : String → Option Toml.Rows} {text : String} {p : Policy}
    (h : ofToml parse text = some (.ok p)) : p.validate = some (.ok ()) := by
  unfold ofToml at h
  split at h
  · cases h
  · rename_i q _
    obtain ⟨answer, hanswer, hp⟩ := Option.map_eq_some_iff.mp h
    cases answer with
    | error e => cases hp
    | ok =>
      cases hp
      exact hanswer

/-- A document that says nothing gives the defaults, and these are valid. -/
theorem ofToml_of_empty {parse : String → Option Toml.Rows} {text : String} (h : parse text = some []) :
    ofToml parse text = some (.ok {}) := by
  have hdefaults : ofRows? [] = some {} := rfl
  have hvalid : ({} : Policy).validate = some (.ok ()) := rfl
  simp [ofToml, h, hdefaults, hvalid, Except.map]

end Policy

end Connectivity
