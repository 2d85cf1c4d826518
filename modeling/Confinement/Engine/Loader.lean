import Confinement.Engine.Basic

/-! Loading profiles and routines into an engine. -/

set_option autoImplicit false

namespace Confinement.Engine

/-- Loads the profile of a key, over an earlier one, with the place of its routine. -/
def addProfile (engine : Engine) (key : ProfileKey) (index : UInt32) :
    Logged (Engine × Except Error Profile) := do
  if key.isUnconfined then
    pure (engine, .error (.policy .reservedKey))
  else if engine.dispatch.length ≤ index.toNat then
    pure (engine, .error (.dispatchIndex index engine.dispatch.length))
  else
    let record : Profile := ⟨key, index⟩
    let (profiles, answer) ← engine.profiles.put key record
    let engine := { engine with tracker := { engine.tracker with profiles } }
    match answer with
    | .error failure => pure (engine, .error (.capacity profiles.name failure.capacity))
    | .ok _ =>
      Logged.write (.policy .info
        ("Loaded profile " ++ key.render ++ s!" at dispatch index {index}"))
      pure (engine, .ok record)

def addProfileForPath (engine : Engine) (files : Files) (path : String) (index : UInt32) :
    Logged (Engine × Except Error Profile) := do
  match files.executable path true with
  | .error error => pure (engine, .error error)
  | .ok executable =>
    Logged.write ⟨.debug, s!"{path} has device " ++ Text.hexNumber executable.device.toNat ++
      s!" inode {executable.inode}"⟩
    engine.addProfile executable.profileKey index

def removeProfile (engine : Engine) (key : ProfileKey) : Logged (Engine × Option Profile) := do
  let (profiles, removed) := engine.profiles.delete key
  Logged.writeIf removed.isSome (.policy .info ("Removed profile " ++ key.render))
  pure ({ engine with tracker := { engine.tracker with profiles } }, removed)

def registerRoutine (engine : Engine) (index : UInt32) (routine : Routine) :
    Logged (Engine × Except Error Unit) := do
  let (dispatch, answer) ← engine.dispatch.register index routine
  pure ({ engine with dispatch }, answer.map fun _ => ())

def unregisterRoutine (engine : Engine) (index : UInt32) : Logged (Engine × Option Routine) := do
  let (dispatch, removed) ← engine.dispatch.unregister index
  pure ({ engine with dispatch }, removed)

/-- Registers a routine and then loads the profile that uses it, so that no call is sent to an empty
place in between. -/
def install (engine : Engine) (key : ProfileKey) (index : UInt32) (routine : Routine) :
    Logged (Engine × Except Error Profile) := do
  let (engine, answer) ← engine.registerRoutine index routine
  match answer with
  | .error error => pure (engine, .error error)
  | .ok () => engine.addProfile key index

end Confinement.Engine
