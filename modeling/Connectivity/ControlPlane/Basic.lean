/-
  Connectivity.ControlPlane.Basic — the control plane: what it is built from, its state, and the
  delivery of platform events to the modes.

  An event goes to the modes that run on its interface, one after the other, and each tells its
  callback if what the callback should know has changed. The event before a teardown is answered
  apart: the leases of the interface's modes are given back while a stop waits, and then the stop
  is let through.
-/

import Connectivity.Dispatch
import Connectivity.Latch
import Connectivity.Roster.Basic

namespace Connectivity

/-- A status for a callback, handed to the dispatcher. -/
structure Notice where
  mode : Mode
  status : Standing
  deriving DecidableEq, Repr

/-- A control plane over a platform, a store and memory, with a policy that is valid. -/
structure ControlPlane (σ τ : Type) where
  policy : Policy
  platform : Platform σ
  store : Store τ
  memory : Roster.Memory
  valid : policy.validate = some (.ok ())

namespace ControlPlane

variable {σ τ α : Type}

/-- A control plane, if its policy is valid; none if the program stops as it judges the policy. -/
def make (policy : Policy) (platform : Platform σ) (store : Store τ) (memory : Roster.Memory) :
    Option (Except Error (ControlPlane σ τ)) :=
  match h : policy.validate with
  | none => none
  | some (.error e) => some (.error e)
  | some (.ok _) => some (.ok { policy, platform, store, memory, valid := h })

/-- The state of a control plane, with that of its surroundings. -/
structure State (σ τ : Type) where
  roster : Roster
  env : Env σ
  store : τ
  /-- What was handed to the dispatcher, the latest first. -/
  notices : List Notice := []
  /-- Where the stop of a mode waits for the event ahead of the teardown. -/
  latches : Mode → Latch := fun _ => {}

/-- The state before the first `setUp`. -/
def initial (M : ControlPlane σ τ) (env : Env σ) (store : τ) : State σ τ :=
  { roster := { quota := M.policy.budget M.valid }, env, store }

/-- An operation that answers or fails, and in either case leaves a next state. -/
abbrev Operation (σ τ α : Type) := State σ τ → Except Error α × State σ τ

namespace State

/-- The state of a mode, between `setUp` and `dissolve`. -/
def mode? (s : State σ τ) (mode : Mode) : Option ModeState :=
  s.roster.modes.map (fun r => r.get mode)

/-- Stores a mode's state with the surroundings as it left them. -/
def update (s : State σ τ) (mode : Mode) (x : ModeState × Env σ) : State σ τ :=
  { s with roster := s.roster.setMode mode x.1, env := x.2 }

/-- Hands the mode's callback what it has to be told, if that changed. -/
def tell (s : State σ τ) (mode : Mode) : State σ τ :=
  match s.mode? mode with
  | none => s
  | some m =>
    let (status?, m) := m.refresh
    { s with
      roster := s.roster.setMode mode m
      notices :=
        match status? with
        | some status => ⟨mode, status⟩ :: s.notices
        | none => s.notices }

def signal (s : State σ τ) (x : Signal) (on : Bool) : State σ τ :=
  { s with env := s.env.signal x on }

end State

variable (M : ControlPlane σ τ)

/-! ## Events -/

/-- One mode's answer to an event, if it runs on the interface. -/
def react (name : String) (event : Event) (mode : Mode) (s : State σ τ) : State σ τ :=
  match s.mode? mode with
  | none => s
  | some m =>
    if m.accepts name then
      (s.update mode (Dispatch.answer M.platform M.policy.retryNanos event m s.env)).tell mode
    else s

/-- Gives back the lease of one mode, if it runs on an interface that is about to go down. -/
def giveBack (name : String) (mode : Mode) (s : State σ τ) : State σ τ :=
  match s.mode? mode with
  | none => s
  | some m =>
    if m.accepts name then
      match m.client with
      | some c =>
        s.update mode ({ m with client := none }, Link.surrender M.platform c.session s.env)
      | none => s
    else s

/-- Trips the latch of every mode that runs on an interface that is about to go down. -/
def letThrough (name : String) (s : State σ τ) : State σ τ :=
  match s.roster.modes with
  | none => s
  | some r =>
    { s with
      latches := fun mode =>
        if (r.get mode).accepts name then (s.latches mode).trip else s.latches mode }

section
variable (name : String) (s : State σ τ)

@[simp] theorem roster_letThrough : (letThrough name s).roster = s.roster := by
  unfold letThrough
  split <;> rfl

@[simp] theorem env_letThrough : (letThrough name s).env = s.env := by
  unfold letThrough
  split <;> rfl

@[simp] theorem store_letThrough : (letThrough name s).store = s.store := by
  unfold letThrough
  split <;> rfl

@[simp] theorem notices_letThrough : (letThrough name s).notices = s.notices := by
  unfold letThrough
  split <;> rfl

end

/-- Delivers an event of an interface. -/
def receive (name : String) (event : Event) (s : State σ τ) : State σ τ :=
  match event with
  | .ifDownPre => letThrough name (M.giveBack name .accessPoint (M.giveBack name .normal s))
  | event => M.react name event .accessPoint (M.react name event .normal s)

/-- Delivers events in their order. -/
def receiveAll (events : List (String × Event)) (s : State σ τ) : State σ τ :=
  events.foldl (fun s x => M.receive x.1 x.2 s) s

end ControlPlane

end Connectivity
