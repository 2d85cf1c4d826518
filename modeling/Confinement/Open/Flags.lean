import Confinement.Access
import Confinement.Text.Outline

/-! The arguments of an open call, and the access that they ask for. -/

set_option autoImplicit false

namespace Confinement

/-- The arguments of an open call as the kernel sees them. -/
structure OpenFlags where
  openFlag : Int32
  mode : UInt16
  accMode : Int32
  intent : Int32
  lookupFlags : Int32
  deriving DecidableEq, Repr

namespace OpenFlags

/-- The two low bits of the flag word: how the file is opened. -/
def accessMask : Int32 := 3

def writeOnly : Int32 := 1

def readWrite : Int32 := 2

/-- The bit that asks to empty the file, which is to write it. -/
def truncate : Int32 := 512

def append : Int32 := 1024

/-- The access that a flag word asks for. -/
def derivedAccess (openFlag : Int32) : Access :=
  let base : Access :=
    if openFlag &&& accessMask = writeOnly then .onlyWrite
    else if openFlag &&& accessMask = readWrite then .onlyRead ∪ .onlyWrite
    else .onlyRead
  let base := if openFlag &&& truncate ≠ 0 then base ∪ .onlyWrite else base
  if openFlag &&& append ≠ 0 then base ∪ .onlyAppend else base

def forOpen (openFlag : Int32) (mode : UInt16) : OpenFlags where
  openFlag
  mode
  accMode := (derivedAccess openFlag).bits.toInt32
  intent := 0
  lookupFlags := 0

def access (flags : OpenFlags) : Access :=
  .ofBits flags.accMode.toUInt32

def outline (flags : OpenFlags) : String :=
  Text.outline "OpenFlags"
    [("open_flag", toString flags.openFlag), ("mode", toString flags.mode),
      ("acc_mode", toString flags.accMode), ("intent", toString flags.intent),
      ("lookup_flags", toString flags.lookupFlags)]

end OpenFlags

end Confinement
