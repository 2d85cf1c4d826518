import Confinement.Mode
import Confinement.Open.Flags
import Confinement.Table.Basic

/-! The place where the arguments of an open call wait from its entry to its exit. -/

set_option autoImplicit false

namespace Confinement

inductive OpenSlot where
  | perThread (table : Table UInt32 OpenFlags)
  /-- One place for all callers, never emptied; an exit may find the arguments of another call. -/
  | shared (flags : Option OpenFlags)

namespace OpenSlot

def new (mode : SlotMode) (capacity shards : Nat) (assignment : UInt32 → UInt64) : OpenSlot :=
  match mode with
  | .perThread => .perThread (Table.new "open_args" capacity shards assignment)
  | .shared => .shared none

def mode : OpenSlot → SlotMode
  | perThread _ => .perThread
  | shared _ => .shared

def capture (slot : OpenSlot) (tid : UInt32) (flags : OpenFlags) : Logged (OpenSlot × Bool) :=
  -- The answer tells whether there was a place for them.
  match slot with
  | perThread table => do
    let (table, answer) ← table.put tid flags
    pure (perThread table, answer.toBool)
  | shared _ => pure (shared (some flags), true)

/-- Fetches the arguments for the exit of a thread. -/
def take (slot : OpenSlot) (tid : UInt32) : OpenSlot × Option OpenFlags :=
  -- Those kept per thread are then gone.
  match slot with
  | perThread table =>
    let (table, flags) := table.delete tid
    (perThread table, flags)
  | shared flags => (shared flags, flags)

def pending : OpenSlot → Nat
  | perThread table => table.size
  | shared flags => if flags.isSome then 1 else 0

def outline (slot : OpenSlot) : String :=
  Text.outline "OpenArgsSlot" [("mode", slot.mode.outline), ("pending", toString slot.pending)]

end OpenSlot

end Confinement
