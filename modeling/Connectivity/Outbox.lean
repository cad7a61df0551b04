/-
  Connectivity.Outbox — the queue between the control plane and its callbacks. Posting never
  waits: with the queue full the notice is dropped. A dispatcher runs the callbacks, one at a time
  and in the order of the posts. A callback that panics has been run all the same where the panic
  unwinds, since the dispatcher catches it; a build that aborts at a panic ends there.

  Dropping the outbox takes the sender away and joins the dispatcher, which ends when nothing is
  queued any more.
-/

import Connectivity.ControlPlane.Basic

namespace Connectivity

/-- What becomes of a panic in a build of the program. -/
inductive PanicStrategy where
  | unwind
  | abort
  deriving DecidableEq, Repr

/-- How a callback ends. -/
inductive Ending where
  | returned
  | panicked
  deriving DecidableEq, Repr

inductive Dispatcher where
  /-- It waits for a notice. -/
  | waiting
  /-- It runs the callback of a notice. -/
  | running (n : Notice)
  /-- It waits for nothing more. -/
  | ended
  deriving DecidableEq, Repr

/-- What becomes of a notice that is posted. -/
inductive Posted where
  | queued
  /-- The queue was full. -/
  | full
  /-- The dispatcher has ended. -/
  | gone
  /-- The outbox has no sender any more. -/
  | closed
  deriving DecidableEq, Repr

structure Outbox where
  /-- How many notices may wait. -/
  depth : Nat
  strategy : PanicStrategy
  /-- The notices that wait, the oldest first. -/
  queue : List Notice := []
  dispatcher : Dispatcher := .waiting
  /-- The notices whose callbacks have run, the oldest first. -/
  delivered : List Notice := []
  /-- Whether there is a sender. -/
  isOpen : Bool := true
  deriving DecidableEq, Repr

namespace Outbox

def post (o : Outbox) (n : Notice) : Posted × Outbox :=
  if !o.isOpen then (.closed, o)
  else if o.dispatcher = .ended then (.gone, o)
  else if o.queue.length < o.depth then (.queued, { o with queue := o.queue ++ [n] })
  else (.full, o)

/-- The dispatcher after a callback: a panic that unwinds is caught, and one that does not ends it. -/
def afterCallback : PanicStrategy → Ending → Dispatcher
  | .abort, .panicked => .ended
  | _, _ => .waiting

/-- The dispatcher's next step. The callback that runs ends; or the oldest notice is taken and its
    callback begins; or there is none, and the dispatcher waits for one as long as there is a
    sender. -/
def turn (o : Outbox) (ending : Ending) : Outbox :=
  match o.dispatcher with
  | .running n =>
    { o with
      dispatcher := afterCallback o.strategy ending
      delivered := o.delivered ++ [n] }
  | .waiting =>
    match o.queue with
    | n :: rest => { o with queue := rest, dispatcher := .running n }
    | [] => if o.isOpen then o else { o with dispatcher := .ended }
  | .ended => o

/-- The first half of a drop: the sender is taken away. -/
def shut (o : Outbox) : Outbox := { o with isOpen := false }

/-- How many turns an outbox that is shut takes to its dispatcher's end. -/
def work (o : Outbox) : Nat :=
  2 * o.queue.length +
    match o.dispatcher with
    | .waiting => 1
    | .running _ => 2
    | .ended => 0

/-- A drop: the sender is taken away and the dispatcher joined, whose callbacks all return. -/
def drop (o : Outbox) : Outbox :=
  (List.replicate o.work Ending.returned).foldl turn o.shut

end Outbox

end Connectivity
