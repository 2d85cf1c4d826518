import Confinement.Engine.Loader

/-! Runs of an engine: what is done to it from outside, one operation after another, and what each
operation answers.
-/

set_option autoImplicit false

namespace Confinement

/-- One thing done to an engine. -/
inductive Operation where
  | event (event : KernelEvent)
  | addProfile (key : ProfileKey) (index : UInt32)
  | addProfileForPath (files : Files) (path : String) (index : UInt32)
  | removeProfile (key : ProfileKey)
  | registerRoutine (index : UInt32) (routine : Routine)
  | unregisterRoutine (index : UInt32)
  | install (key : ProfileKey) (index : UInt32) (routine : Routine)
  | setMode (mode : Mode)
  | drain (channel : Channel)

inductive Response where
  | outcome (outcome : Outcome)
  | profile (profile : Profile)
  | removed (profile : Option Profile)
  | registered
  | unregistered (routine : Option Routine)
  | mode (mode : Mode)
  | events (events : List Event)
  | failed (error : Error)

namespace Response

def ofResult {α : Type} (make : α → Response) : Except Error α → Response
  | .ok value => make value
  | .error error => failed error

end Response

namespace Engine

def perform (engine : Engine) (operation : Operation) : Logged (Engine × Response) :=
  match operation with
  | .event event => do
    let (engine, answer) ← engine.handle event
    pure (engine, .ofResult .outcome answer)
  | .addProfile key index => do
    let (engine, answer) ← engine.addProfile key index
    pure (engine, .ofResult .profile answer)
  | .addProfileForPath files path index => do
    let (engine, answer) ← engine.addProfileForPath files path index
    pure (engine, .ofResult .profile answer)
  | .removeProfile key => do
    let (engine, removed) ← engine.removeProfile key
    pure (engine, .removed removed)
  | .registerRoutine index routine => do
    let (engine, answer) ← engine.registerRoutine index routine
    pure (engine, .ofResult (fun _ => .registered) answer)
  | .unregisterRoutine index => do
    let (engine, removed) ← engine.unregisterRoutine index
    pure (engine, .unregistered removed)
  | .install key index routine => do
    let (engine, answer) ← engine.install key index routine
    pure (engine, .ofResult .profile answer)
  | .setMode mode => do
    let engine ← engine.setMode mode
    pure (engine, .mode engine.mode)
  | .drain channel =>
    let (engine, events) := engine.drain channel
    pure (engine, .events events)

def run : List Operation → Engine → Logged (Engine × List Response)
  | [], engine => pure (engine, [])
  | operation :: rest, engine => do
    let (engine, response) ← engine.perform operation
    let (engine, responses) ← run rest engine
    pure (engine, response :: responses)

/-- Whether operations lead from a new engine of some configuration to this state. -/
def Reachable (engine : Engine) : Prop :=
  ∃ config terminator assignments operations,
    config.validate = .ok () ∧
      ((initial config terminator assignments).run operations).value.1 = engine

end Engine

end Confinement
