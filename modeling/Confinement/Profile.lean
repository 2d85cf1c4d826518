import Confinement.Table.Basic
import Confinement.Text.Numeral
import Confinement.Text.Outline

/-! Profiles, and the executables that they belong to.

A profile belongs to one file on disk, not to a path. Its key is made of the numbers of the device
and of the inode, so it follows the file through renaming and is lost when the file is replaced.
-/

set_option autoImplicit false

namespace Confinement

structure ProfileKey where
  raw : UInt64
  deriving DecidableEq, Repr

namespace ProfileKey

/-- The key of processes without a profile. -/
def unconfined : ProfileKey := ⟨0⟩

instance : Inhabited ProfileKey := ⟨unconfined⟩

def isUnconfined (key : ProfileKey) : Bool :=
  key.raw == 0

/-- The device number above the inode number. -/
def ofIdentity (device : UInt32) (inode : UInt64) : ProfileKey :=
  -- High bits of a wide inode number run into it.
  ⟨inode ||| (device.toUInt64 <<< (32 : UInt64))⟩

def device (key : ProfileKey) : UInt32 :=
  (key.raw >>> (32 : UInt64)).toUInt32

def inode (key : ProfileKey) : UInt32 :=
  key.raw.toUInt32

def render (key : ProfileKey) : String :=
  "0x" ++ Text.hexPadded 16 key.raw.toNat

def outline (key : ProfileKey) : String :=
  Text.outlineOf "ProfileKey" (toString key.raw)

end ProfileKey

/-- The number of a device from its major and minor parts. -/
def encodeDevice (major minor : UInt32) : UInt32 :=
  -- The low eight bits of the minor part come first, then the major part, then the rest of the
  -- minor part; bits past the word are lost.
  (minor &&& (255 : UInt32)) ||| (major <<< (8 : UInt32)) |||
    ((minor &&& ~~~(255 : UInt32)) <<< (12 : UInt32))

structure Executable where
  device : UInt32
  inode : UInt64
  deriving DecidableEq, Repr

namespace Executable

def profileKey (executable : Executable) : ProfileKey :=
  ProfileKey.ofIdentity executable.device executable.inode

def outline (executable : Executable) : String :=
  Text.outline "ExecutableIdentity"
    [("device", toString executable.device), ("inode", toString executable.inode)]

end Executable

structure Profile where
  key : ProfileKey
  index : UInt32
  deriving DecidableEq, Repr

abbrev ProfileTable := Table ProfileKey Profile

end Confinement
