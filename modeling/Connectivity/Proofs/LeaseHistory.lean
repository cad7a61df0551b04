/-
  Connectivity.Proofs.LeaseHistory — what is due follows from what happened. A client keeps one lease with
  the reading at which it was got and three readings of failures; it forgets the rest.
  - `LeaseEvent`: what happens to a client, at readings of the clock that need not increase.
  - `dueAfter`: what is due, told by a history alone.
  - `Remembers`: a client keeps of its history what this takes. Every event keeps that
    (`remembers_after`), and so the client and its history agree (`due_after`).
  - `stage`: what is due by the age of the lease alone. A failure puts it off (`due_eq_stage`), and with time
    it only advances (`stage_mono`).
-/

import Connectivity.Proofs.Upkeep

namespace Connectivity

/-! ## Histories -/

/-- What happens to the client of a session, at a reading of the clock. -/
inductive LeaseEvent where
  | granted (timers : Timers) (now : Nat)
  | failed (phase : Phase) (now : Nat) (failure : Option LeaseFailure)
  | forgotten
  deriving DecidableEq, Repr

namespace LeaseEvent

/-- The latest lease of a history and its reading. The latest event is the first. -/
def leaseIn : List LeaseEvent → Option (Timers × Nat)
  | [] => none
  | .granted timers now :: _ => some (timers, now)
  | _ :: past => leaseIn past

/-- The history since its latest lease; all of it without one. -/
def recent : List LeaseEvent → List LeaseEvent
  | [] => []
  | .granted _ _ :: _ => []
  | x :: past => x :: recent past

/-- The reading of the latest failure of a phase. -/
def failureIn (p : Phase) : List LeaseEvent → Option Nat
  | [] => none
  | .failed q now _ :: past => if q = p then some now else failureIn p past
  | _ :: past => failureIn p past

/-- The server refused. -/
def isRefusal : LeaseEvent → Bool
  | .failed _ _ failure => failure = some .nak
  | _ => false

/-- A phase has not failed since the latest lease, or at least `retry` ago. -/
def rested (past : List LeaseEvent) (p : Phase) (now retry : Nat) : Bool :=
  (failureIn p (recent past)).all fun failed => retry ≤ now - failed

end LeaseEvent

open LeaseEvent

/-- What is due after a history. -/
def dueAfter (past : List LeaseEvent) (now retry : Nat) : Due :=
  let waiting := if rested past .request now retry then .request else .idle
  match leaseIn past with
  | none => waiting
  | some (timers, since) =>
    let age := now - since
    if .forgotten ∈ recent past then waiting
    else if (recent past).any isRefusal then .recover
    else if Client.nanos timers.lease ≤ age then .recover
    else if Client.nanos timers.rebinding ≤ age ∧ age < Client.nanos timers.lease ∧ rested past .rebind now retry then
      .renew .rebind
    else if Client.nanos timers.renewal ≤ age ∧ age < Client.nanos timers.rebinding ∧ rested past .renew now retry then
      .renew .unicast
    else .idle

namespace Client

/-- The client of a session after a history. -/
def after (session : SessionId) : List LeaseEvent → Client
  | [] => { session }
  | .granted timers now :: past => (after session past).granted timers now
  | .failed phase now failure :: past => (after session past).failed phase now failure
  | .forgotten :: past => (after session past).forget

/-- The client keeps of its history what says what is due. -/
structure Remembers (c : Client) (past : List LeaseEvent) : Prop where
  lease : c.lease = (leaseIn past).bind fun x =>
    if .forgotten ∈ recent past then none
    else if (recent past).any isRefusal then some .withdrawn
    else some x.1
  updatedAt : ∀ timers since, leaseIn past = some (timers, since) → c.updatedAt = since
  failures : ∀ p, c.failures.at? p = failureIn p (recent past)

namespace Remembers

variable {c : Client} {past : List LeaseEvent} {now : Nat}

theorem granted (c : Client) (timers : Timers) (now : Nat) (past : List LeaseEvent) :
    (c.granted timers now).Remembers (.granted timers now :: past) where
  lease := by simp [Client.granted, leaseIn, recent]
  updatedAt timers' since h := by
    cases h
    rfl
  failures p := by cases p <;> rfl

/-- A refusal withdraws the lease that there is; without one it is only a failure. -/
theorem failed (h : c.Remembers past) (phase : Phase) (now : Nat) (failure : Option LeaseFailure) :
    (c.failed phase now failure).Remembers (.failed phase now failure :: past) where
  lease := by
    have hforgotten : LeaseEvent.forgotten ∈ recent (.failed phase now failure :: past) ↔
        LeaseEvent.forgotten ∈ recent past := by simp [recent]
    have hrefused : (recent (.failed phase now failure :: past)).any isRefusal =
        (decide (failure = some .nak) || (recent past).any isRefusal) := rfl
    simp only [Client.failed, h.lease, leaseIn, hforgotten, hrefused]
    by_cases hn : failure = some .nak
    · simp only [hn, if_true, decide_true, Bool.true_or]
      cases leaseIn past with
      | none => rfl
      | some x =>
        simp only [Option.bind_some]
        (repeat' split) <;> rfl
    · simp only [hn, if_false, decide_false, Bool.false_or]
  updatedAt := h.updatedAt
  failures p := by
    simp only [Client.failed, Failures.at?_record, recent, failureIn, h.failures p]

/-- A lease that is given up leaves the memory of failures. -/
theorem forgotten (h : c.Remembers past) : c.forget.Remembers (.forgotten :: past) where
  lease := by
    have hnone : (leaseIn past).bind (fun _ => (none : Option Timers)) = none := by
      cases leaseIn past <;> rfl
    simp [Client.forget, leaseIn, recent, hnone]
  updatedAt := h.updatedAt
  failures p := h.failures p

end Remembers

theorem remembers_after (session : SessionId) (past : List LeaseEvent) : (after session past).Remembers past := by
  induction past with
  | nil => exact ⟨rfl, nofun, fun p => by cases p <;> rfl⟩
  | cons x past ih =>
    cases x with
    | granted timers now => exact .granted _ timers now past
    | failed phase now failure => exact ih.failed phase now failure
    | forgotten => exact ih.forgotten

variable {c : Client} {past : List LeaseEvent} {now now' retry : Nat}

theorem mayTry_eq_rested (h : c.Remembers past) (p : Phase) (now retry : Nat) :
    c.mayTry p now retry = rested past p now retry := by
  unfold mayTry rested
  rw [h.failures p]
  cases failureIn p (recent past) <;> rfl

/-- A lease in one condition for each of its times, whatever their order. -/
theorem due_of_lease {t : Timers} (hl : c.lease = some t) (now retry : Nat) :
    c.due now retry =
      if nanos t.lease ≤ now - c.updatedAt then .recover
      else if nanos t.rebinding ≤ now - c.updatedAt ∧ now - c.updatedAt < nanos t.lease ∧
          c.mayTry .rebind now retry then
        .renew .rebind
      else if nanos t.renewal ≤ now - c.updatedAt ∧ now - c.updatedAt < nanos t.rebinding ∧
          c.mayTry .renew now retry then
        .renew .unicast
      else .idle := by
  by_cases hend : nanos t.lease ≤ now - c.updatedAt
  · rw [if_pos hend, due_of_lost hl (.inr hend)]
  · have hlt : now - c.updatedAt < nanos t.lease := Nat.lt_of_not_le hend
    rw [if_neg hend]
    by_cases h2 : nanos t.rebinding ≤ now - c.updatedAt
    · rw [due_of_rebinding hl h2 hlt]
      simp only [h2, hlt, Nat.not_lt_of_le h2, true_and, false_and, and_false, if_false]
    · have hlt2 : now - c.updatedAt < nanos t.rebinding := Nat.lt_of_not_le h2
      simp only [due, hl, not_withdrawn hlt, hend, h2, hlt2, false_and, true_and, Bool.false_eq_true, if_false]
      by_cases h1 : nanos t.renewal ≤ now - c.updatedAt
      · simp only [h1, true_and, if_true]
      · simp only [h1, false_and, if_false]

/-- Whatever happened, in whatever order and at whatever readings of the clock: what is due is what the
    history says. -/
theorem due_after (session : SessionId) (past : List LeaseEvent) (now retry : Nat) :
    (after session past).due now retry = dueAfter past now retry := by
  have h := remembers_after session past
  have hlease := h.lease
  simp only [dueAfter, ← mayTry_eq_rested h]
  cases hin : leaseIn past with
  | none =>
    rw [hin] at hlease
    exact due_of_no_lease hlease
  | some x =>
    obtain ⟨timers, since⟩ := x
    rw [hin, Option.bind_some] at hlease
    simp only
    split <;> rename_i hforgotten
    · rw [if_pos hforgotten] at hlease
      exact due_of_no_lease hlease
    · rw [if_neg hforgotten] at hlease
      split <;> rename_i hrefused
      · rw [if_pos hrefused] at hlease
        exact due_of_lost hlease (.inl rfl)
      · rw [if_neg hrefused] at hlease
        rw [← h.updatedAt timers since hin]
        exact due_of_lease hlease now retry

/-! ## Stages -/

/-- What is due by the age of the lease alone, as if nothing had failed. -/
def stage (c : Client) (now : Nat) : Due := c.due now 0

theorem mayTry_zero (c : Client) (p : Phase) (now : Nat) : c.mayTry p now 0 = true :=
  mayTry_iff.mpr fun _ _ => Nat.zero_le _

theorem mayTry_mono {p : Phase} (hle : now ≤ now') (h : c.mayTry p now retry = true) :
    c.mayTry p now' retry = true := by
  rw [mayTry_iff] at h ⊢
  intro failed hfailed
  have hrested := h failed hfailed
  omega

theorem stage_of_lease {t : Timers} (hl : c.lease = some t) (now : Nat) :
    c.stage now =
      if nanos t.lease ≤ now - c.updatedAt then .recover
      else if nanos t.rebinding ≤ now - c.updatedAt then .renew .rebind
      else if nanos t.renewal ≤ now - c.updatedAt then .renew .unicast
      else .idle := by
  rw [stage, due_of_lease hl]
  simp only [mayTry_zero]
  by_cases hend : nanos t.lease ≤ now - c.updatedAt
  · rw [if_pos hend, if_pos hend]
  · have hlt : now - c.updatedAt < nanos t.lease := Nat.lt_of_not_le hend
    by_cases h2 : nanos t.rebinding ≤ now - c.updatedAt
    · simp [hend, h2, hlt]
    · simp [hend, h2, Nat.lt_of_not_le h2]

end Client

/-- The phase whose failures can put an action off. -/
def Due.phase? : Due → Option Phase
  | .idle => none
  | .request => some .request
  | .renew mode => some mode.phase
  | .recover => none

/-- The stages of a lease in the order in which its times run out. Without a lease there is one stage. -/
def Due.rank : Due → Nat
  | .idle => 0
  | .request => 0
  | .renew .unicast => 1
  | .renew .rebind => 2
  | .recover => 3

theorem Due.eq_recover_of_rank {d : Due} (h : Due.recover.rank ≤ d.rank) : d = .recover := by
  cases d with
  | recover => rfl
  | renew mode => cases mode <;> simp [rank] at h
  | idle => simp [rank] at h
  | request => simp [rank] at h

namespace Client

variable {c : Client} {past : List LeaseEvent} {now now' retry : Nat}

/-- A stage that has a phase is put off by a failure of this phase, and no other stage is. -/
theorem due_eq_stage (c : Client) (now retry : Nat) :
    c.due now retry = if (c.stage now).phase?.all fun p => c.mayTry p now retry then c.stage now else .idle := by
  cases hl : c.lease with
  | none =>
    have hstage : c.stage now = .request := by rw [stage, due_of_no_lease hl, mayTry_zero, if_pos rfl]
    rw [hstage, due_of_no_lease hl]
    rfl
  | some t =>
    rw [stage_of_lease hl, due_of_lease hl]
    by_cases hend : nanos t.lease ≤ now - c.updatedAt
    · simp [hend, Due.phase?]
    · have hlt : now - c.updatedAt < nanos t.lease := Nat.lt_of_not_le hend
      by_cases h2 : nanos t.rebinding ≤ now - c.updatedAt
      · simp [hend, h2, hlt, Nat.not_lt_of_le h2, Due.phase?, Renewal.phase]
      · by_cases h1 : nanos t.renewal ≤ now - c.updatedAt
        · simp [hend, h2, h1, Nat.lt_of_not_le h2, Due.phase?, Renewal.phase]
        · simp [hend, h2, h1, Due.phase?]

/-- With time the stages only advance. -/
theorem stage_mono (c : Client) (hle : now ≤ now') : (c.stage now).rank ≤ (c.stage now').rank := by
  cases hl : c.lease with
  | none =>
    simp [stage, due_of_no_lease hl, mayTry_zero]
  | some t =>
    have hage : now - c.updatedAt ≤ now' - c.updatedAt := Nat.sub_le_sub_right hle _
    rw [stage_of_lease hl, stage_of_lease hl]
    (repeat' split) <;> simp only [Due.rank] <;> omega

/-- How what is due goes on from one reading of the clock to a later one while nothing happens. -/
structure Advances (c : Client) (now now' retry : Nat) : Prop where
  stage : (c.stage now).rank ≤ (c.stage now').rank
  /-- What is due is the stage, or waits for a failure of its phase to be `retry` old. -/
  waits : c.due now retry = c.stage now ∨
    c.due now retry = .idle ∧
      ∃ p failed, (c.stage now).phase? = some p ∧ c.failures.at? p = some failed ∧ now - failed < retry
  /-- What was waited for goes on within its stage, -/
  goesOn : c.due now retry = c.stage now → c.stage now' = c.stage now → c.due now' retry = c.stage now'
  /-- and nothing that was passed comes back. -/
  ahead : c.due now retry ≠ .idle → c.due now' retry ≠ .idle → (c.due now retry).rank ≤ (c.due now' retry).rank
  recover : c.stage now = .recover → c.due now retry = .recover ∧ c.due now' retry = .recover

theorem due_of_ne_idle (h : c.due now retry ≠ .idle) : c.due now retry = c.stage now := by
  rw [due_eq_stage] at h ⊢
  split
  · rfl
  · rename_i hwait
    rw [if_neg hwait] at h
    exact absurd rfl h

theorem advances (c : Client) (hle : now ≤ now') (retry : Nat) : c.Advances now now' retry where
  stage := stage_mono c hle
  waits := by
    rw [due_eq_stage]
    split
    · exact .inl rfl
    · rename_i hwait
      refine .inr ⟨rfl, ?_⟩
      cases hp : (c.stage now).phase? with
      | none =>
        rw [hp] at hwait
        exact absurd rfl hwait
      | some p =>
        rw [hp, Option.all_some, mayTry_iff] at hwait
        simp only [Rested, not_forall] at hwait
        obtain ⟨failed, hfailed, hrecent⟩ := hwait
        exact ⟨p, failed, rfl, hfailed, Nat.lt_of_not_le hrecent⟩
  goesOn hdue hsame := by
    rw [due_eq_stage] at hdue ⊢
    rw [hsame]
    cases hp : (c.stage now).phase? with
    | none => rfl
    | some p =>
      rw [hp] at hdue
      simp only [Option.all_some] at hdue ⊢
      split at hdue
      · rename_i hmay
        rw [if_pos (mayTry_mono hle hmay)]
      · -- An idle stage has no phase to wait for.
        rw [← hdue] at hp
        cases hp
  ahead h h' := by
    rw [due_of_ne_idle h, due_of_ne_idle h']
    exact stage_mono c hle
  recover hlost := by
    have hlost' : c.stage now' = .recover := Due.eq_recover_of_rank (hlost ▸ stage_mono c hle)
    rw [due_eq_stage, due_eq_stage, hlost, hlost']
    exact ⟨rfl, rfl⟩

/-- What is due to a client is told by what happened to it, in whatever order and at whatever readings of the
    clock. While nothing more happens the stages of its lease only advance, and its end is never put off. -/
theorem after_due (session : SessionId) (past : List LeaseEvent) :
    (∀ now retry, (after session past).due now retry = dueAfter past now retry) ∧
      ∀ now now' retry, now ≤ now' → (after session past).Advances now now' retry :=
  ⟨due_after session past, fun _ _ retry hle => advances _ hle retry⟩

/-- After a request that failed and the lease that came later, an attempt to renew it fails. -/
def shaky : List LeaseEvent :=
  [.failed .renew (112 * second) (some .timeout),
    .granted { lease := 30, renewal := 10, rebinding := 20 } (100 * second), .failed .request (99 * second) none]

/-- The next attempt to renew waits for the interval; the failed request has no say any more. -/
theorem shaky_due :
    let c := after ⟨1⟩ shaky
    c.due (113 * second) (5 * second) = .idle ∧ dueAfter shaky (113 * second) (5 * second) = .idle ∧
      c.due (117 * second) (5 * second) = .renew .unicast ∧ 113 * second ≤ 117 * second ∧
      c.Advances (113 * second) (117 * second) (5 * second) := by
  obtain ⟨hdue, hadvances⟩ := after_due ⟨1⟩ shaky
  have hidle : dueAfter shaky (113 * second) (5 * second) = .idle := by decide
  have hunicast : dueAfter shaky (117 * second) (5 * second) = .renew .unicast := by decide
  exact ⟨(hdue (113 * second) (5 * second)).trans hidle, hidle,
    (hdue (117 * second) (5 * second)).trans hunicast, by decide,
    hadvances (113 * second) (117 * second) (5 * second) (by decide)⟩

end Client

end Connectivity
