import Confinement.Profile

/-! Tasks, and the records that the engine keeps of them. -/

set_option autoImplicit false

namespace Confinement

/-- The thread that a call comes from, and its thread group. -/
structure Task where
  tid : UInt32
  tgid : UInt32
  deriving DecidableEq, Repr

namespace Task

def single (pid : UInt32) : Task := ⟨pid, pid⟩

def outline (task : Task) : String :=
  Text.outline "TaskContext" [("tid", toString task.tid), ("tgid", toString task.tgid)]

end Task

/-- The state of one tracked task. -/
structure ProcessState where
  pid : UInt32
  tgid : UInt32
  tid : UInt32
  profileKey : ProfileKey
  tainted : Bool
  deriving DecidableEq, Repr

namespace ProcessState

def new (pid tgid : UInt32) : ProcessState :=
  ⟨pid, tgid, pid, .unconfined, false⟩

def isConfined (process : ProcessState) : Bool :=
  !process.profileKey.isUnconfined

def outline (process : ProcessState) : String :=
  Text.outline "ProcessRecord"
    [("pid", toString process.pid), ("tgid", toString process.tgid),
      ("tid", toString process.tid), ("profile_key", process.profileKey.outline),
      ("tainted", toString process.tainted)]

end ProcessState

abbrev ProcessTable := Table UInt32 ProcessState

end Confinement
