import Confinement.Files

/-! The identity of an open file, from two texts of the kernel: what it says of the descriptor of the
file, and its list of mounts.
-/

set_option autoImplicit false

namespace Confinement.FileIdentity

def field? (name text : String) : Option String :=
  (text.splitOn "\n").findSome? fun line =>
    match line.splitOn ":\t" with
    | [found, value] => if found = name then some (Text.trim value) else none
    | _ => none

/-- The number of the device that a mount is on. -/
def deviceOf? (mount mounts : String) : Option UInt32 :=
  -- Each line of the list starts with the number of the mount, that of its parent, and the two
  -- parts of the device number.
  (mounts.splitOn "\n").findSome? fun line =>
    match line.splitOn " " with
    | number :: _ :: device :: _ =>
      if number = mount then
        match (device.splitOn ":").map String.toNat? with
        | [some major, some minor] => some (encodeDevice major.toUInt32 minor.toUInt32)
        | _ => none
      else none
    | _ => none

def ofKernel? (descriptor mounts : String) : Option FileIdentity := do
  let inode ← (field? "ino" descriptor).bind String.toNat?
  let mount ← field? "mnt_id" descriptor
  let device ← deviceOf? mount mounts
  some ⟨device.toUInt64, inode.toUInt64⟩

end Confinement.FileIdentity
