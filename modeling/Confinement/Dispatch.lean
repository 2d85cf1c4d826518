import Confinement.Routine

/-! The table of routines, addressed by the index that a profile carries. -/

set_option autoImplicit false

namespace Confinement

/-- A table of fixed length whose places may be empty. -/
structure DispatchTable where
  length : Nat
  routines : List (UInt32 × Routine)

namespace DispatchTable

def new (length : Nat) : DispatchTable :=
  ⟨length, []⟩

def get? (table : DispatchTable) (index : UInt32) : Option Routine :=
  Association.find? index table.routines

def registered (table : DispatchTable) : Nat :=
  table.routines.length

/-- Puts a routine at an index and returns the one that was there. -/
def register (table : DispatchTable) (index : UInt32) (routine : Routine) :
    Logged (DispatchTable × Except Error (Option Routine)) :=
  if index.toNat < table.length then do
    Logged.write (.policy .info
      ("Registered routine '" ++ routine.name ++ s!"' at dispatch index {index}"))
    pure ({ table with routines := Association.put index routine table.routines },
      .ok (table.get? index))
  else pure (table, .error (.dispatchIndex index table.length))

def unregister (table : DispatchTable) (index : UInt32) :
    Logged (DispatchTable × Option Routine) :=
  match table.get? index with
  | some routine => do
    Logged.write (.policy .info
      ("Unregistered routine '" ++ routine.name ++ s!"' from dispatch index {index}"))
    pure ({ table with routines := Association.erase index table.routines }, some routine)
  | none => pure (table, none)

def outline (table : DispatchTable) : String :=
  Text.outline "DispatchTable"
    [("len", toString table.length), ("registered", toString table.registered)]

end DispatchTable

end Confinement
