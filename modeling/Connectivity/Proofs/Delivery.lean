/-
  Connectivity.Proofs.Delivery — what becomes of the notices that are posted while a dispatcher runs callbacks.
  - `turn_cases`: all that a turn of the dispatcher can be where panics unwind.
  - `Live`: the dispatcher does not end before the sender is taken away and the queue is empty. So a post never
    finds it gone (`Live.post_cases`).
  - `Watch`: an outbox with what was seen of it since it was made. `Orderly`: what was queued is what was
    delivered, what runs and what waits, in the order of the posts, and the callbacks ran one at a time. Each
    act keeps both (`live_act`, `orderly_act`).
  - `work_turn`: once the sender is gone every turn brings the dispatcher nearer to its end. What it leaves is
    the same however the callbacks end (`outbox_eq_of_ended`).
  - `run_delivered`: so in any interleaving a notice is dropped only where the queue is full, and every other is
    delivered before a drop of the outbox is over.
-/

import Connectivity.Outbox

namespace Connectivity

def Dispatcher.running? : Dispatcher → Option Notice
  | .running n => some n
  | _ => none

namespace Outbox

variable {o : Outbox} {n : Notice}

/-! ## The dispatcher -/

/-- With nothing to do the dispatcher stays as it is. -/
def IsStill (o : Outbox) : Prop :=
  o.dispatcher = .ended ∨ o.dispatcher = .waiting ∧ o.queue = [] ∧ o.isOpen = true

theorem turn_cases (hunwind : o.strategy = .unwind) (ending : Ending) :
    (∃ n, o.dispatcher = .running n ∧
      o.turn ending = { o with dispatcher := .waiting, delivered := o.delivered ++ [n] }) ∨
    (∃ n rest, o.dispatcher = .waiting ∧ o.queue = n :: rest ∧
      o.turn ending = { o with queue := rest, dispatcher := .running n }) ∨
    (o.dispatcher = .waiting ∧ o.queue = [] ∧ o.isOpen = false ∧ o.turn ending = { o with dispatcher := .ended }) ∨
    (o.IsStill ∧ o.turn ending = o) := by
  obtain ⟨depth, strategy, queue, dispatcher, delivered, isOpen⟩ := o
  obtain rfl : strategy = .unwind := hunwind
  cases dispatcher with
  | running n =>
    refine .inl ⟨n, rfl, ?_⟩
    cases ending <;> rfl
  | waiting =>
    cases queue with
    | cons n rest => exact .inr (.inl ⟨n, rest, rfl, rfl, rfl⟩)
    | nil =>
      cases isOpen with
      | true => exact .inr (.inr (.inr ⟨.inr ⟨rfl, rfl, rfl⟩, rfl⟩))
      | false => exact .inr (.inr (.inl ⟨rfl, rfl, rfl, rfl⟩))
  | ended => exact .inr (.inr (.inr ⟨.inl rfl, rfl⟩))

/-- Panics are caught, and the dispatcher has ended only if there is neither a sender nor anything to deliver. -/
structure Live (o : Outbox) : Prop where
  unwinds : o.strategy = .unwind
  ended : o.dispatcher = .ended → o.isOpen = false ∧ o.queue = []

namespace Live

theorem turn (h : o.Live) (ending : Ending) : (o.turn ending).Live := by
  rcases turn_cases h.unwinds ending with
    ⟨n, -, hturn⟩ | ⟨n, rest, -, -, hturn⟩ | ⟨-, hqueue, hclosed, hturn⟩ | ⟨-, hturn⟩ <;> rw [hturn]
  · exact ⟨h.unwinds, nofun⟩
  · exact ⟨h.unwinds, nofun⟩
  · exact ⟨h.unwinds, fun _ => ⟨hclosed, hqueue⟩⟩
  · exact h

theorem shut (h : o.Live) : o.shut.Live := ⟨h.unwinds, fun hended => ⟨rfl, (h.ended hended).2⟩⟩

/-- As long as there is a sender a notice is queued or finds the queue full. -/
theorem post_cases (h : o.Live) (n : Notice) :
    (o.isOpen = false ∧ o.post n = (.closed, o)) ∨
    (o.isOpen = true ∧ o.queue.length < o.depth ∧ o.post n = (.queued, { o with queue := o.queue ++ [n] })) ∨
    (o.isOpen = true ∧ o.depth ≤ o.queue.length ∧ o.post n = (.full, o)) := by
  cases hopen : o.isOpen with
  | false => exact .inl ⟨rfl, by simp [post, hopen]⟩
  | true =>
    have hlives : o.dispatcher ≠ .ended := fun hended => by
      have hshut := (h.ended hended).1
      rw [hopen] at hshut
      cases hshut
    by_cases hroom : o.queue.length < o.depth
    · exact .inr (.inl ⟨rfl, hroom, by simp [post, hopen, hlives, hroom]⟩)
    · exact .inr (.inr ⟨rfl, Nat.le_of_not_lt hroom, by simp [post, hopen, hlives, hroom]⟩)

theorem post (h : o.Live) (n : Notice) : (o.post n).2.Live := by
  rcases h.post_cases n with ⟨-, hpost⟩ | ⟨hopen, -, hpost⟩ | ⟨-, -, hpost⟩ <;> rw [hpost]
  · exact h
  · refine ⟨h.unwinds, fun hended => ?_⟩
    have hshut := (h.ended hended).1
    rw [hopen] at hshut
    cases hshut
  · exact h

theorem ended_iff (h : o.Live) : o.dispatcher = .ended ↔ o.work = 0 := by
  unfold work
  cases hd : o.dispatcher with
  | waiting => simp
  | running n => simp
  | ended => simp [(h.ended hd).2]

/-- Without a sender a turn is one of those that are left. -/
theorem work_turn (h : o.Live) (hclosed : o.isOpen = false) (ending : Ending) :
    (o.turn ending).work = o.work - 1 := by
  rcases turn_cases h.unwinds ending with
    ⟨n, hd, hturn⟩ | ⟨n, rest, hd, hq, hturn⟩ | ⟨hd, hq, -, hturn⟩ | ⟨hended | ⟨-, -, hopen⟩, hturn⟩
  · simp [hturn, work, hd]
  · simp [hturn, work, hd, hq]
    omega
  · simp [hturn, work, hd, hq]
  · rw [hturn, h.ended_iff.mp hended]
  · rw [hclosed] at hopen
    cases hopen

end Live

@[simp] theorem isOpen_turn (o : Outbox) (ending : Ending) : (o.turn ending).isOpen = o.isOpen := by
  unfold turn
  (repeat' split) <;> rfl

/-! ## Runs -/

inductive Act where
  | post (n : Notice)
  /-- The dispatcher takes a turn. If a callback ends by it, this is how. -/
  | turn (ending : Ending)
  /-- A drop of the outbox begins. -/
  | shut
  deriving DecidableEq, Repr

def Act.posted? : Act → Option Notice
  | .post n => some n
  | _ => none

/-- What is seen of a callback. -/
inductive Sight where
  | began (n : Notice)
  | ended (n : Notice) (ending : Ending)
  deriving DecidableEq, Repr

/-- All that is seen of a callback that ran, and of how it ended. -/
def Sight.ofCall : Notice × Ending → List Sight
  | (n, ending) => [.began n, .ended n ending]

/-- What is seen when the dispatcher's turn makes one outbox of another. -/
def Sight.between (ending : Ending) (before after : Outbox) : List Sight :=
  match before.dispatcher.running?, after.dispatcher.running? with
  | none, some n => [.began n]
  | some n, none => [.ended n ending]
  | _, _ => []

/-- An outbox with what was seen of it, the oldest first. -/
structure Watch where
  outbox : Outbox
  posted : List Notice := []
  /-- What was posted and queued. -/
  kept : List Notice := []
  sights : List Sight := []

namespace Watch

def act (w : Watch) : Act → Watch
  | .post n =>
    { w with
      outbox := (w.outbox.post n).2
      posted := w.posted ++ [n]
      kept := if (w.outbox.post n).1 = .queued then w.kept ++ [n] else w.kept }
  | .turn ending =>
    { w with
      outbox := w.outbox.turn ending
      sights := w.sights ++ Sight.between ending w.outbox (w.outbox.turn ending) }
  | .shut => { w with outbox := w.outbox.shut }

/-- A drop of the outbox as the dispatcher's turns go on. It is over when the dispatcher has ended, which it
    waits for. -/
def drop (w : Watch) (endings : List Ending) : Watch :=
  endings.foldl (fun w ending => w.act (.turn ending)) (w.act .shut)

/-- What was queued is found in the outbox once and in its order, and callbacks ran one at a time: what was seen
    are whole calls of the notices that were delivered, and the beginning of the one that runs. -/
structure Orderly (w : Watch) : Prop where
  kept : w.kept.Sublist w.posted
  found : w.outbox.delivered ++ w.outbox.dispatcher.running?.toList ++ w.outbox.queue = w.kept
  room : w.outbox.queue.length ≤ w.outbox.depth
  oneByOne : ∃ calls : List (Notice × Ending), calls.map Prod.fst = w.outbox.delivered ∧
    w.sights = calls.flatMap Sight.ofCall ++ w.outbox.dispatcher.running?.toList.map Sight.began

variable {w : Watch} {n : Notice}

theorem live_act (hl : w.outbox.Live) (a : Act) : (w.act a).outbox.Live := by
  cases a with
  | post n => exact hl.post n
  | turn ending => exact hl.turn ending
  | shut => exact hl.shut

theorem orderly_post (hl : w.outbox.Live) (h : w.Orderly) (n : Notice) : (w.act (.post n)).Orderly := by
  have hlonger : w.kept.Sublist (w.posted ++ [n]) := h.kept.trans (List.sublist_append_left w.posted [n])
  rcases hl.post_cases n with ⟨-, hpost⟩ | ⟨-, hroom, hpost⟩ | ⟨-, -, hpost⟩
  · constructor <;> simp only [act, hpost, reduceCtorEq, if_false]
    · exact hlonger
    · exact h.found
    · exact h.room
    · exact h.oneByOne
  · constructor <;> simp only [act, hpost, if_true]
    · exact h.kept.append (List.Sublist.refl [n])
    · rw [← h.found, List.append_assoc _ _ [n]]
    · rw [List.length_append, List.length_singleton]
      omega
    · exact h.oneByOne
  · constructor <;> simp only [act, hpost, reduceCtorEq, if_false]
    · exact hlonger
    · exact h.found
    · exact h.room
    · exact h.oneByOne

theorem orderly_turn (hl : w.outbox.Live) (h : w.Orderly) (ending : Ending) : (w.act (.turn ending)).Orderly := by
  obtain ⟨calls, hdelivered, hsights⟩ := h.oneByOne
  have hfound := h.found
  have hroom := h.room
  rcases turn_cases hl.unwinds ending with
    ⟨n, hd, hturn⟩ | ⟨n, rest, hd, hq, hturn⟩ | ⟨hd, -, -, hturn⟩ | ⟨-, hturn⟩
  · -- The call that runs becomes a whole one.
    refine ⟨h.kept, ?_, ?_, calls ++ [(n, ending)], ?_, ?_⟩
    all_goals simp only [act, hturn]
    · simpa [hd, Dispatcher.running?] using hfound
    · exact hroom
    · simp [hdelivered]
    · simp [Sight.between, Sight.ofCall, Dispatcher.running?, hd, hsights]
  · refine ⟨h.kept, ?_, ?_, calls, ?_, ?_⟩
    all_goals simp only [act, hturn]
    · simpa [hd, hq, Dispatcher.running?] using hfound
    · rw [hq, List.length_cons] at hroom
      omega
    · exact hdelivered
    · simp [Sight.between, Dispatcher.running?, hd, hsights]
  · refine ⟨h.kept, ?_, ?_, calls, ?_, ?_⟩
    all_goals simp only [act, hturn]
    · simpa [hd, Dispatcher.running?] using hfound
    · exact hroom
    · exact hdelivered
    · simp [Sight.between, Dispatcher.running?, hd, hsights]
  · have hnothing : Sight.between ending w.outbox w.outbox = [] := by
      unfold Sight.between
      cases w.outbox.dispatcher.running? <;> rfl
    simpa only [act, hturn, hnothing, List.append_nil] using h

theorem orderly_act (hl : w.outbox.Live) (h : w.Orderly) (a : Act) : (w.act a).Orderly := by
  cases a with
  | post n => exact orderly_post hl h n
  | turn ending => exact orderly_turn hl h ending
  | shut => exact ⟨h.kept, h.found, h.room, h.oneByOne⟩

theorem orderly_run (hl : w.outbox.Live) (h : w.Orderly) (acts : List Act) :
    (acts.foldl act w).outbox.Live ∧ (acts.foldl act w).Orderly := by
  induction acts generalizing w with
  | nil => exact ⟨hl, h⟩
  | cons a acts ih => exact ih (live_act hl a) (orderly_act hl h a)

/-- What was posted is what the acts say. -/
theorem posted_run (acts : List Act) (w : Watch) :
    (acts.foldl act w).posted = w.posted ++ acts.filterMap Act.posted? := by
  induction acts generalizing w with
  | nil => simp
  | cons a acts ih =>
    rw [List.foldl_cons, ih]
    cases a <;> simp [act, Act.posted?, List.filterMap_cons]

theorem depth_act (w : Watch) (a : Act) : (w.act a).outbox.depth = w.outbox.depth := by
  cases a with
  | post n =>
    simp only [act, Outbox.post]
    (repeat' split) <;> rfl
  | turn ending =>
    simp only [act, Outbox.turn]
    (repeat' split) <;> rfl
  | shut => rfl

theorem depth_run (acts : List Act) (w : Watch) : (acts.foldl act w).outbox.depth = w.outbox.depth := by
  induction acts generalizing w with
  | nil => rfl
  | cons a acts ih => rw [List.foldl_cons, ih, depth_act]

/-- Only the beginning of a drop takes the sender away. -/
theorem isOpen_act (w : Watch) (a : Act) : (w.act a).outbox.isOpen = (w.outbox.isOpen && a ≠ .shut) := by
  cases a with
  | post n =>
    simp only [act, Outbox.post]
    (repeat' split) <;> simp
  | turn ending => simp [act]
  | shut => simp [act, Outbox.shut]

theorem isOpen_run (acts : List Act) (w : Watch) :
    (acts.foldl act w).outbox.isOpen = true ↔ w.outbox.isOpen = true ∧ .shut ∉ acts := by
  induction acts generalizing w with
  | nil => simp
  | cons a acts ih =>
    rw [List.foldl_cons, ih, isOpen_act, List.mem_cons, not_or]
    simp only [Bool.and_eq_true, decide_eq_true_eq, and_assoc, ne_comm]

/-! ## The drop -/

theorem drop_eq_foldl (w : Watch) (endings : List Ending) :
    w.drop endings = (Act.shut :: endings.map Act.turn).foldl act w := by
  rw [List.foldl_cons, List.foldl_map]
  rfl

/-- Turns are the outbox's own, and nothing is queued by them. -/
theorem foldl_act_turn (endings : List Ending) (w : Watch) :
    (endings.foldl (fun w ending => w.act (.turn ending)) w).outbox = endings.foldl Outbox.turn w.outbox ∧
      (endings.foldl (fun w ending => w.act (.turn ending)) w).kept = w.kept := by
  induction endings generalizing w with
  | nil => exact ⟨rfl, rfl⟩
  | cons ending endings ih => exact ih (w.act (.turn ending))

theorem outbox_drop (w : Watch) (endings : List Ending) :
    (w.drop endings).outbox = endings.foldl Outbox.turn w.outbox.shut :=
  (foldl_act_turn endings (w.act .shut)).1

theorem kept_drop (w : Watch) (endings : List Ending) : (w.drop endings).kept = w.kept :=
  (foldl_act_turn endings (w.act .shut)).2

/-- However the callbacks end: the dispatcher takes as many turns to its end as there was work. -/
theorem work_foldl_turn (hl : o.Live) (hclosed : o.isOpen = false) (endings : List Ending) :
    (endings.foldl Outbox.turn o).work = o.work - endings.length := by
  induction endings generalizing o with
  | nil => rfl
  | cons ending endings ih =>
    calc ((ending :: endings).foldl Outbox.turn o).work
        = (o.turn ending).work - endings.length := ih (hl.turn ending) ((isOpen_turn o ending).trans hclosed)
      _ = o.work - (ending :: endings).length := by
        rw [hl.work_turn hclosed, List.length_cons]
        omega

theorem live_drop (hl : w.outbox.Live) (h : w.Orderly) (endings : List Ending) :
    (w.drop endings).outbox.Live ∧ (w.drop endings).Orderly := by
  rw [drop_eq_foldl]
  exact orderly_run hl h _

theorem ended_drop_iff (hl : w.outbox.Live) (h : w.Orderly) (endings : List Ending) :
    (w.drop endings).outbox.dispatcher = .ended ↔ w.outbox.work ≤ endings.length := by
  have hwork : (w.drop endings).outbox.work = w.outbox.work - endings.length := by
    rw [outbox_drop]
    exact work_foldl_turn hl.shut rfl endings
  rw [(live_drop hl h endings).1.ended_iff, hwork]
  omega

/-- What an outbox is whose dispatcher has ended. -/
theorem outbox_eq_of_ended (hl : w.outbox.Live) (h : w.Orderly) (hended : w.outbox.dispatcher = .ended) :
    w.outbox =
      { depth := w.outbox.depth, strategy := .unwind, queue := [], dispatcher := .ended, delivered := w.kept,
        isOpen := false } := by
  obtain ⟨hclosed, hqueue⟩ := hl.ended hended
  have hdelivered : w.outbox.delivered = w.kept := by
    rw [← h.found, hended, hqueue]
    simp [Dispatcher.running?]
  have hunwinds := hl.unwinds
  generalize w.outbox = o at *
  obtain ⟨depth, strategy, queue, dispatcher, delivered, isOpen⟩ := o
  simp only at hclosed hqueue hdelivered hended hunwinds
  rw [hclosed, hqueue, hdelivered, hended, hunwinds]

/-- What can be relied on when an outbox is dropped and its dispatcher takes its turns, which end with as many as
    there was work, whatever callbacks panic. -/
structure Drops (w : Watch) (endings : List Ending) : Prop where
  ends : (w.drop endings).outbox.dispatcher = .ended ↔ w.outbox.work ≤ endings.length
  drop : (w.drop endings).outbox.dispatcher = .ended → (w.drop endings).outbox = w.outbox.drop
  delivered : (w.drop endings).outbox.dispatcher = .ended → (w.drop endings).outbox.delivered = w.kept
  /-- Callbacks still ran one at a time, and each of them to its end. -/
  oneByOne : (w.drop endings).outbox.dispatcher = .ended →
    ∃ calls : List (Notice × Ending), calls.map Prod.fst = w.kept ∧
      (w.drop endings).sights = calls.flatMap Sight.ofCall

theorem Orderly.drops (hl : w.outbox.Live) (h : w.Orderly) (endings : List Ending) : w.Drops endings := by
  have hleft (endings : List Ending) (hended : (w.drop endings).outbox.dispatcher = .ended) :
      (w.drop endings).outbox =
        { depth := w.outbox.depth, strategy := .unwind, queue := [], dispatcher := .ended, delivered := w.kept,
          isOpen := false } := by
    obtain ⟨hlive, horderly⟩ := live_drop hl h endings
    have hdepth : (w.drop endings).outbox.depth = w.outbox.depth := by
      rw [drop_eq_foldl]
      exact depth_run _ w
    rw [outbox_eq_of_ended hlive horderly hended, kept_drop, hdepth]
  refine ⟨ended_drop_iff hl h endings, fun hended => ?_, fun hended => ?_, fun hended => ?_⟩
  · have hdrop : w.outbox.drop = (w.drop (List.replicate w.outbox.work .returned)).outbox :=
      (outbox_drop w _).symm
    have hended' : (w.drop (List.replicate w.outbox.work .returned)).outbox.dispatcher = .ended :=
      (ended_drop_iff hl h _).mpr (Nat.le_of_eq List.length_replicate.symm)
    rw [hleft endings hended, hdrop, hleft _ hended']
  · rw [hleft endings hended]
  · obtain ⟨calls, hdelivered, hsights⟩ := (live_drop hl h endings).2.oneByOne
    refine ⟨calls, ?_, ?_⟩
    · rw [hdelivered, hleft endings hended]
    · rw [hsights, hended]
      simp [Dispatcher.running?]

/-! ## Delivery -/

/-- Whatever is posted to an outbox with room for a notice at least, whenever the dispatcher takes its turns and
    however the callbacks end, in a build where panics unwind: what is delivered was posted, in the order of the
    posts. The dispatcher does not end before a drop begins. Until then a notice is dropped exactly where the
    queue is full, and nothing else is lost. A drop delivers all that was queued, however the callbacks end. -/
theorem run_delivered {depth : Nat} (hdepth : 0 < depth) (acts : List Act) :
    let w := acts.foldl act { outbox := { depth, strategy := .unwind } }
    w.posted = acts.filterMap Act.posted? ∧
    w.outbox.delivered.Sublist w.posted ∧
    w.Orderly ∧
    (w.outbox.isOpen = true ↔ Act.shut ∉ acts) ∧
    (Act.shut ∉ acts → w.outbox.dispatcher ≠ .ended) ∧
    (∀ n, Act.shut ∉ acts →
      (w.outbox.post n).1 = (if w.outbox.queue.length = depth then .full else .queued) ∧
      (w.act (.post n)).kept = if w.outbox.queue.length = depth then w.kept else w.kept ++ [n]) ∧
    (∀ n, Act.shut ∉ acts → w.outbox.queue = [] → (w.act (.post n)).kept = w.kept ++ [n]) ∧
    ∀ endings, w.Drops endings := by
  intro w
  have hnew : ({ depth, strategy := .unwind } : Outbox).Live := ⟨rfl, nofun⟩
  obtain ⟨hl, hw⟩ : w.outbox.Live ∧ w.Orderly := orderly_run hnew ⟨.slnil, rfl, Nat.zero_le _, [], rfl, rfl⟩ acts
  have hopens : w.outbox.isOpen = true ↔ Act.shut ∉ acts :=
    (isOpen_run acts _).trans (and_iff_right rfl)
  have hlives (hshut : Act.shut ∉ acts) (hended : w.outbox.dispatcher = .ended) : False := by
    have hclosed := (hl.ended hended).1
    rw [hopens.mpr hshut] at hclosed
    cases hclosed
  have hposts (n : Notice) (hshut : Act.shut ∉ acts) :
      (w.outbox.post n).1 = (if w.outbox.queue.length = depth then .full else .queued) ∧
      (w.act (.post n)).kept = if w.outbox.queue.length = depth then w.kept else w.kept ++ [n] := by
    have hd : w.outbox.depth = depth := depth_run acts _
    have hroom := hw.room
    rw [hd] at hroom
    rcases hl.post_cases n with ⟨hclosed, -⟩ | ⟨-, hlt, hpost⟩ | ⟨-, hle, hpost⟩
    · rw [hopens.mpr hshut] at hclosed
      cases hclosed
    · have hne : w.outbox.queue.length ≠ depth := Nat.ne_of_lt (hd ▸ hlt)
      simp [act, hpost, hne]
    · have heq : w.outbox.queue.length = depth := Nat.le_antisymm hroom (hd ▸ hle)
      simp [act, hpost, heq]
  refine ⟨posted_run acts _, ?_, hw, hopens, hlives, hposts, fun n hshut hempty => ?_, hw.drops hl⟩
  · refine .trans ?_ hw.kept
    rw [← hw.found, List.append_assoc]
    exact List.sublist_append_left _ _
  · rw [(hposts n hshut).2, hempty, List.length_nil, if_neg (Nat.ne_of_lt hdepth)]

/-- While the first callback runs the queue takes one notice, and the next is dropped. Then the callback
    panics. -/
def crowded : List Act :=
  [.post ⟨.accessPoint, .apStart⟩, .turn .returned, .post ⟨.normal, .connected⟩, .post ⟨.normal, .disconnected⟩,
    .turn .panicked]

theorem crowded_delivered :
    let w := crowded.foldl act { outbox := { depth := 1, strategy := .unwind } }
    0 < 1 ∧ Act.shut ∉ crowded ∧
    (w.posted.length, w.kept) = (3, [⟨.accessPoint, .apStart⟩, ⟨.normal, .connected⟩]) ∧
    w.outbox.delivered.Sublist w.posted ∧
    w.Orderly ∧
    w.outbox.dispatcher ≠ .ended ∧
    (w.outbox.post ⟨.normal, .disconnected⟩).1 = .full ∧
    (w.act (.post ⟨.normal, .disconnected⟩)).kept = w.kept ∧
    (w.drop [.returned, .panicked, .returned]).outbox.dispatcher = .ended ∧
    (w.drop [.returned, .panicked, .returned]).outbox = w.outbox.drop ∧
    (w.drop [.returned, .panicked, .returned]).outbox.delivered = w.kept := by
  intro w
  have hshut : Act.shut ∉ crowded := by decide
  obtain ⟨-, hsublist, horderly, -, hlives, hposts, -, hdrops⟩ := run_delivered Nat.one_pos crowded
  obtain ⟨hanswer, hkept⟩ := hposts ⟨.normal, .disconnected⟩ hshut
  have hd := hdrops [.returned, .panicked, .returned]
  have hended : (w.drop [.returned, .panicked, .returned]).outbox.dispatcher = .ended := hd.ends.mpr (by decide)
  exact ⟨Nat.one_pos, hshut, rfl, hsublist, horderly, hlives hshut, hanswer.trans (by decide),
    hkept.trans (by decide), hended, hd.drop hended, hd.delivered hended⟩

/-- Where a panic aborts, the notice that waits behind the callback is never delivered. -/
theorem a_panic_that_aborts_loses_what_waits :
    let w := crowded.foldl act { outbox := { depth := 1, strategy := .abort } }
    w.kept = [⟨.accessPoint, .apStart⟩, ⟨.normal, .connected⟩] ∧
      ∀ endings, (w.drop endings).outbox.delivered = [⟨.accessPoint, .apStart⟩] := by
  intro w
  refine ⟨rfl, fun endings => ?_⟩
  have hstays : ∀ endings : List Ending, endings.foldl Outbox.turn w.outbox.shut = w.outbox.shut := by
    intro endings
    induction endings with
    | nil => rfl
    | cons ending endings ih => exact ih
  rw [outbox_drop, hstays]
  rfl

end Watch

end Outbox

end Connectivity
