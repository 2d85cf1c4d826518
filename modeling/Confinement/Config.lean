import Confinement.Error
import Confinement.Log
import Confinement.Mode

/-! The configuration of an engine. -/

set_option autoImplicit false

namespace Confinement

structure Config where
  maxProcesses : Nat
  maxProfiles : Nat
  tableShards : Nat
  mode : Mode
  openArgsSlot : SlotMode
  channelCapacity : Nat
  deriving DecidableEq, Repr

namespace Config

def default : Config := ⟨10240, 10240, 16, .audit, .perThread, 4096⟩

instance : Inhabited Config := ⟨default⟩

def withMode (config : Config) (mode : Mode) : Config :=
  { config with mode }

def validate (config : Config) : Except ConfigFault Unit := do
  if config.tableShards = 0 then throw .noShards
  if config.maxProfiles = 0 then throw .noProfiles
  if UInt32.size ≤ config.maxProfiles then throw (.tooManyProfiles config.maxProfiles)
  if config.channelCapacity = 0 then throw .noChannelCapacity

def check (config : Config) : Logged (Except Error Unit) := do
  match config.validate with
  | .error fault => pure (.error (.config fault))
  | .ok () =>
    Logged.writeIf (config.maxProcesses == 0)
      ⟨.warn, "max_processes is 0: no process will ever be tracked"⟩
    pure (.ok ())

end Config

end Confinement
