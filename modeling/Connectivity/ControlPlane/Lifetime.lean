/-
  Connectivity.ControlPlane.Lifetime — setting the control plane up and releasing it, and the
  handles through which it is used.
-/

import Connectivity.ControlPlane.Basic

namespace Connectivity.ControlPlane

variable {σ τ α : Type} (M : ControlPlane σ τ)

/-- Gives up the events of interfaces; a refusal is only logged. -/
def unsubscribeAll (names : List String) (e : Env σ) : Env σ :=
  names.foldl (fun e name => (e.perform (M.platform.unsubscribe name)).2) e

/-- Asks for the events of interfaces in their order. A refusal takes back what was asked for
    before. -/
def subscribeAll (done : List String) : List String → Env σ → Except PlatformError Unit × Env σ
  | [], e => (.ok (), e)
  | name :: names, e =>
    match e.perform (M.platform.subscribe name) with
    | (.error err, e) => (.error err, M.unsubscribeAll done e)
    | (.ok _, e) => subscribeAll (done ++ [name]) names e

/-- Sets up the modes and has the events of every interface delivered. Repeating it changes
    nothing. -/
def setUp : Operation σ τ Unit := fun s =>
  match s.env.perform M.platform.interfaces with
  | (.error err, env) => (.error (.platform err), { s with env })
  | (.ok interfaces, env) =>
    match s.roster.setUp M.memory interfaces with
    | (.error err, roster) => (.error err, { s with env, roster })
    | (.ok false, roster) => (.ok (), { s with env, roster })
    | (.ok true, roster) =>
      match M.subscribeAll [] (interfaces.map (·.name)) env with
      | (.ok _, env) => (.ok (), { s with env, roster })
      | (.error err, env) =>
        match roster.dissolve with
        | (.error released, roster) => (.error released, { s with env, roster })
        | (.ok _, roster) => (.error (.platform err), { s with env, roster })

/-- Releases the modes and gives up the events of every interface. -/
def dissolve : Operation σ τ Unit := fun s =>
  match s.roster.dissolve with
  | (.error err, roster) => (.error err, { s with roster })
  | (.ok modes, roster) =>
    (.ok (),
      { s with roster, env := M.unsubscribeAll (modes.interfaces.map (·.name)) s.env })

/-- The end of a control plane: it is released if it is set up. -/
def finish (s : State σ τ) : State σ τ :=
  if s.roster.isSetUp then (M.dissolve s).2 else s

/-! ## Handles -/

def issueHandle (mode : Mode) (access : Access) : Operation σ τ Handle := fun s =>
  let (result, roster) := s.roster.issue mode access
  (result, { s with roster })

def revokeHandle (h : Handle) : Operation σ τ Unit := fun s =>
  match s.roster.lock with
  | .error err => (.error err, s)
  | .ok modes =>
    let (result, roster) := s.roster.revoke h modes
    (result, { s with roster })

/-- Runs an operation under a guard on a handle, which is given back at its end. -/
def withHandle (h : Handle) (isControl : Bool) (run : Mode → Operation σ τ α) :
    Operation σ τ α := fun s =>
  match s.roster.enter h isControl with
  | (.error err, _) => (.error err, s)
  | (.ok g, roster) =>
    let (result, s) := run g.mode { s with roster }
    (result, { s with roster := s.roster.leave g })

/-- Runs an operation with the state of a handle's mode. -/
def withMode (h : Handle) (isControl : Bool) (run : ModeState → Operation σ τ α) :
    Operation σ τ α :=
  withHandle h isControl (fun mode s =>
    match s.roster.lock with
    | .error err => (.error err, s)
    | .ok modes => run (modes.get mode) s)

/-- The modes that a live handle belongs to. -/
def liveModes (s : State σ τ) : List Mode :=
  let entries := (s.roster.slots.getD []).filterMap (·.entry)
  if s.roster.isSetUp then Mode.all.filter (fun mode => entries.any (fun e => e.mode = mode))
  else []

end Connectivity.ControlPlane
