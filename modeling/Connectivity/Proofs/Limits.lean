/-
  Connectivity.Proofs.Limits — the limits of a policy, and the table of handles that they make.
  - `validate_eq_none_iff`: a policy is not judged where its limits add up past a word and nothing else is wrong
    with it; the program stops there (`limits_past_a_word_stop_the_program`).
  - `validate_eq_ok_iff_sound`: a policy that is accepted is sound for a table of as many slots as its limits
    add up to.
  - `validate_sized`: so a handle has room for every index of the table of a policy that was accepted, whatever
    was done with it.
-/

import Connectivity.Proofs.Quotas

namespace Connectivity

namespace Policy

/-- What is asked of a policy whose table of handles is to have `size` slots. -/
structure Sound (p : Policy) (size : Nat) : Prop where
  queue : p.notifyQueueDepth ≠ 0
  retry : p.retryInterval ≠ 0
  control : ∀ mode, p.quota.allowed mode .control ≠ 0
  table : size ≤ 65535

theorem validate_eq_ok_iff_sound {p : Policy} : p.validate = some (.ok ()) ↔ p.Sound p.quota.sum := by
  have htable : (∃ total, p.quota.total? = some total ∧ total ≤ tableMax) ↔ p.quota.sum ≤ 65535 := by
    constructor
    · rintro ⟨total, htotal, hle⟩
      rw [← Quota.total?_eq_some_iff.mp htotal]
      exact hle
    · intro hle
      have hsum : (UInt64.ofNat p.quota.sum).toNat = p.quota.sum :=
        UInt64.toNat_ofNat_of_lt' (Nat.lt_of_le_of_lt hle (by decide))
      refine ⟨_, Quota.total?_eq_some_iff.mpr hsum, ?_⟩
      rw [UInt64.le_iff_toNat_le, hsum]
      exact hle
  rw [validate_eq_ok_iff, htable]
  exact ⟨fun ⟨hqueue, hretry, hcontrol, hsize⟩ => ⟨hqueue, hretry, hcontrol, hsize⟩,
    fun h => ⟨h.queue, h.retry, h.control, h.table⟩⟩

theorem validate_eq_none_iff {p : Policy} : p.validate = none ↔ p.fault? = none ∧ UInt64.size ≤ p.quota.sum := by
  rw [← Quota.total?_eq_none_iff]
  unfold validate
  cases p.fault? with
  | some fault => simp
  | none => simp

/-- Whatever was done with the roster of a policy that was accepted, its table has a slot for every handle that
    the limits allow. -/
theorem length_slots {p : Policy} (hp : p.validate = some (.ok ())) (acts : List Custody.Act) {slots : List Slot}
    (hs : (acts.foldl Custody.act { roster := { quota := p.budget hp } }).roster.slots = some slots) :
    slots.length = p.quota.sum := by
  have ha : Allotted (p.budget hp) (acts.foldl Custody.act { roster := { quota := p.budget hp } }).roster :=
    Custody.allotted_run acts (.of_none rfl rfl)
  rw [ha.size slots hs, Budget.toNat_total, toQuota_budget]

/-- A policy is accepted exactly if it is sound for a table of as many slots as its limits add up to. One that
    is not sound is refused, unless the sum is past a word and nothing else is wrong: then it is neither
    accepted nor refused. Below a word the sum is exact. Every index of the table of an accepted policy comes
    back from a handle that is made of it, next to any generation. -/
theorem validate_sized (p : Policy) :
    (p.validate = some (.ok ()) ↔ p.Sound p.quota.sum) ∧
    ((∃ err, p.validate = some (.error err)) ↔
      ¬ p.Sound p.quota.sum ∧ (p.fault? = none → p.quota.sum < UInt64.size)) ∧
    (p.validate = none ↔ p.fault? = none ∧ UInt64.size ≤ p.quota.sum) ∧
    (∀ total, p.quota.total? = some total ↔ total.toNat = p.quota.sum) ∧
    ∀ (hp : p.validate = some (.ok ())) (acts : List Custody.Act) (slots : List Slot),
      (acts.foldl Custody.act { roster := { quota := p.budget hp } }).roster.slots = some slots →
        slots.length = p.quota.sum ∧
        ∀ index < slots.length, ∀ generation,
          (Handle.make index generation).index = index ∧ (Handle.make index generation).generation = generation := by
  have hok : p.validate = some (.ok ()) ↔ p.Sound p.quota.sum := validate_eq_ok_iff_sound
  have hnone : p.validate = none ↔ p.fault? = none ∧ UInt64.size ≤ p.quota.sum := validate_eq_none_iff
  refine ⟨hok, ?_, hnone, fun total => Quota.total?_eq_some_iff, fun hp acts slots hs => ?_⟩
  · -- The three outcomes exclude each other, and there is no fourth.
    have hanswers : (p.fault? = none → p.quota.sum < UInt64.size) ↔ p.validate ≠ none := by
      rw [Ne, hnone, not_and, Nat.not_le]
    rw [hanswers, ← hok]
    rcases p.validate with _ | _ | _ <;> simp
  · have hlength := length_slots hp acts hs
    have hmax := (hok.mp hp).table
    refine ⟨hlength, fun index hindex generation => ⟨?_, Handle.generation_make index generation⟩⟩
    rw [Handle.index_make, Nat.mod_eq_of_lt (by omega)]

/-- The largest table there can be. -/
def brimful : Policy := { quota := { normalInformation := 65527 } }

theorem valid_brimful : brimful.validate = some (.ok ()) := rfl

theorem brimful_sized :
    brimful.quota.sum = 65535 ∧ brimful.Sound brimful.quota.sum ∧
      let acts : List Custody.Act := [.setUp Simulation.memory Simulation.Network.twoPortBoard]
      ∃ slots,
        (acts.foldl Custody.act { roster := { quota := brimful.budget valid_brimful } }).roster.slots = some slots ∧
        slots.length = brimful.quota.sum ∧
        ∀ index < slots.length, ∀ generation,
          (Handle.make index generation).index = index ∧ (Handle.make index generation).generation = generation := by
  obtain ⟨hsound, -, -, -, hindex⟩ := validate_sized brimful
  refine ⟨by decide, hsound.mp valid_brimful, ?_⟩
  intro acts
  have hs : (acts.foldl Custody.act { roster := { quota := brimful.budget valid_brimful } }).roster.slots =
      some (List.replicate 65535 {}) := rfl
  exact ⟨_, hs, hindex valid_brimful acts _ hs⟩

/-- Two limits of 63 bits and the two control handles of each mode add up past a word, and a policy with them is
    neither accepted nor refused. -/
theorem limits_past_a_word_stop_the_program : ¬ ∀ p : Policy, ∃ answer, p.validate = some answer := by
  intro hanswered
  let p : Policy := { quota := { normalInformation := 9223372036854775807, apInformation := 9223372036854775807 } }
  obtain ⟨answer, hanswer⟩ := hanswered p
  have hstopped : p.validate = none := by decide
  cases hstopped.symm.trans hanswer

end Policy

end Connectivity
