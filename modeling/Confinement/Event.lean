import Confinement.Process

/-! Reported denials, and the sixteen bytes in which one is recorded. -/

set_option autoImplicit false

namespace Confinement

structure Event where
  pid : UInt32
  tid : UInt32
  profileKey : ProfileKey
  deriving DecidableEq, Repr

namespace Event

def littleEndian : Nat → Nat → List UInt8
  | 0, _ => []
  | width + 1, n => (n % 256).toUInt8 :: littleEndian width (n / 256)

def ofLittleEndian : List UInt8 → Nat
  | [] => 0
  | byte :: rest => byte.toNat + 256 * ofLittleEndian rest

def encode (event : Event) : List UInt8 :=
  littleEndian 4 event.pid.toNat ++ littleEndian 4 event.tid.toNat ++
    littleEndian 8 event.profileKey.raw.toNat

/-- Reads the first sixteen bytes, if there are as many. -/
def decode? (bytes : List UInt8) : Option Event :=
  if bytes.length < 16 then none
  else some
    { pid := (ofLittleEndian (bytes.take 4)).toUInt32
      tid := (ofLittleEndian ((bytes.drop 4).take 4)).toUInt32
      profileKey := ⟨(ofLittleEndian ((bytes.drop 8).take 8)).toUInt64⟩ }

def render (event : Event) : String :=
  s!"Enforcement[pid={event.pid}, tid={event.tid}, profile=" ++ event.profileKey.render ++ "]"

end Event

end Confinement
