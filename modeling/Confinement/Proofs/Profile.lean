import Confinement.Profile
import Mathlib.Data.Nat.Bitwise
import Mathlib.Data.Nat.ModEq

/-! Keys of profiles, and the numbers of the files that they are made from.

In a key the device number lies over the high half of the inode number. In the ranges of the kernel that half
is empty and each number has places of its own, so a key tells them all; elsewhere two files have the same key
exactly if what lies over one another comes to the same.
-/

set_option autoImplicit false

namespace Confinement

/-! ## The halves of a key -/

namespace ProfileKey

theorem toNat_shiftRight_half (word : UInt64) : (word >>> 32).toNat = word.toNat / 2 ^ 32 :=
  Nat.shiftRight_eq_div_pow ..

theorem toNat_device (key : ProfileKey) : key.device.toNat = key.raw.toNat / 2 ^ 32 := by
  have bound := key.raw.toNat_lt
  rw [device, UInt64.toNat_toUInt32, toNat_shiftRight_half]
  exact Nat.mod_eq_of_lt (by omega)

theorem toNat_inode (key : ProfileKey) : key.inode.toNat = key.raw.toNat % 2 ^ 32 :=
  UInt64.toNat_toUInt32 key.raw

theorem eq_iff_halves {first second : ProfileKey} :
    first = second ↔
      first.device.toNat = second.device.toNat ∧ first.inode.toNat = second.inode.toNat := by
  constructor
  · rintro rfl
    exact ⟨rfl, rfl⟩
  · obtain ⟨first⟩ := first
    obtain ⟨second⟩ := second
    simp only [toNat_device, toNat_inode, mk.injEq, ← UInt64.toNat_inj]
    omega

section

variable (device : UInt32) (inode : UInt64)

theorem toNat_raw_ofIdentity :
    (ofIdentity device inode).raw.toNat = inode.toNat ||| device.toNat * 2 ^ 32 := by
  have bound := device.toNat_lt
  have kept : device.toNat * 2 ^ 32 % 2 ^ 64 = device.toNat * 2 ^ 32 := Nat.mod_eq_of_lt (by omega)
  rw [ofIdentity, UInt64.toNat_or, UInt64.toNat_shiftLeft, UInt32.toNat_toUInt64, Nat.shiftLeft_eq]
  exact congrArg (inode.toNat ||| ·) kept

theorem toNat_device_ofIdentity :
    (ofIdentity device inode).device.toNat = device.toNat ||| inode.toNat / 2 ^ 32 := by
  rw [toNat_device, toNat_raw_ofIdentity, Nat.or_div_two_pow, Nat.mul_div_cancel _ (Nat.two_pow_pos 32),
    Nat.or_comm]

theorem toNat_inode_ofIdentity : (ofIdentity device inode).inode.toNat = inode.toNat % 2 ^ 32 := by
  rw [toNat_inode, toNat_raw_ofIdentity, Nat.or_mod_two_pow, Nat.mul_mod_left, Nat.or_zero]

end

variable {device other : UInt32} {inode another : UInt64}

/-- An inode number that fits the low half leaves the device number as it is. -/
theorem device_ofIdentity (narrow : inode.toNat < 2 ^ 32) : (ofIdentity device inode).device = device := by
  rw [← UInt32.toNat_inj, toNat_device_ofIdentity, Nat.div_eq_of_lt narrow, Nat.or_zero]

/-- Keys are equal exactly if the low halves of the inode numbers are, and what lies in the high halves comes
to the same. -/
theorem ofIdentity_eq_iff : ofIdentity device inode = ofIdentity other another ↔
    inode.toNat ≡ another.toNat [MOD 2 ^ 32] ∧
      device.toUInt64 ||| inode >>> 32 = other.toUInt64 ||| another >>> 32 := by
  have overlaid (device : UInt32) (inode : UInt64) :
      (device.toUInt64 ||| inode >>> 32).toNat = device.toNat ||| inode.toNat / 2 ^ 32 := by
    rw [UInt64.toNat_or, UInt32.toNat_toUInt64, toNat_shiftRight_half]
  rw [eq_iff_halves, toNat_device_ofIdentity, toNat_device_ofIdentity, toNat_inode_ofIdentity,
    toNat_inode_ofIdentity, ← UInt64.toNat_inj, overlaid, overlaid, Nat.ModEq, and_comm]

example : ofIdentity 0 4294967296 = ofIdentity 1 0 := by decide

end ProfileKey

/-! ## The parts of a device number -/

/-- Numbers that have no bit in common are laid over one another by adding them. -/
theorem or_mul_two_pow {low bits : Nat} (below : low < 2 ^ bits) (high : Nat) :
    low ||| high * 2 ^ bits = low + high * 2 ^ bits := by
  rw [Nat.or_comm, Nat.mul_comm, ← Nat.two_pow_add_eq_or_of_lt below, Nat.add_comm]

/-- What is left of a minor part without its low eight bits comes to stand above the major part. -/
theorem toNat_highMinor {minor : UInt32} (small : minor.toNat < 2 ^ 20) :
    ((minor &&& ~~~255) <<< 12).toNat = minor.toNat / 2 ^ 8 * 2 ^ 20 := by
  have mask : (~~~255 : UInt32).toNat = (2 ^ 24 - 1) * 2 ^ 8 := rfl
  -- The mask keeps all that is above its low eight bits, and nothing below.
  have high : (minor &&& ~~~255).toNat / 2 ^ 8 = minor.toNat / 2 ^ 8 := by
    rw [UInt32.toNat_and, mask, Nat.and_div_two_pow, Nat.mul_div_cancel _ (Nat.two_pow_pos 8),
      Nat.and_two_pow_sub_one_eq_mod]
    exact Nat.mod_eq_of_lt (by omega)
  have low : (minor &&& ~~~255).toNat % 2 ^ 8 = 0 := by
    rw [UInt32.toNat_and, mask, Nat.and_mod_two_pow, Nat.mul_mod_left, Nat.and_zero]
  have shifted : ((minor &&& ~~~255) <<< 12).toNat = (minor &&& ~~~255).toNat <<< 12 % 2 ^ 32 := rfl
  omega

/-- The major part stands between the low eight bits of the minor part and the rest of it. -/
theorem toNat_encodeDevice {major minor : UInt32} (major_lt : major.toNat < 2 ^ 12)
    (minor_lt : minor.toNat < 2 ^ 20) :
    (encodeDevice major minor).toNat =
      minor.toNat % 2 ^ 8 + major.toNat * 2 ^ 8 + minor.toNat / 2 ^ 8 * 2 ^ 20 := by
  have low : (minor &&& 255).toNat = minor.toNat % 2 ^ 8 :=
    Nat.and_two_pow_sub_one_eq_mod minor.toNat 8
  have middle : (major <<< 8).toNat = major.toNat * 2 ^ 8 := by
    have shifted : (major <<< 8).toNat = major.toNat <<< 8 % 2 ^ 32 := rfl
    omega
  rw [encodeDevice, UInt32.toNat_or, UInt32.toNat_or, low, middle, toNat_highMinor minor_lt,
    or_mul_two_pow (Nat.mod_lt _ (Nat.two_pow_pos 8)), or_mul_two_pow]
  omega

/-! ## Files in the ranges of the kernel -/

/-- The numbers of a file on disk, each in the range that the kernel gives it. -/
@[ext] structure FileNumbers where
  major : UInt32
  minor : UInt32
  inode : UInt64
  major_lt : major.toNat < 2 ^ 12
  minor_lt : minor.toNat < 2 ^ 20
  inode_lt : inode.toNat < 2 ^ 32

namespace FileNumbers

def key (numbers : FileNumbers) : ProfileKey :=
  .ofIdentity (encodeDevice numbers.major numbers.minor) numbers.inode

section

variable (numbers : FileNumbers)

theorem toNat_device_key : numbers.key.device.toNat =
    numbers.minor.toNat % 2 ^ 8 + numbers.major.toNat * 2 ^ 8 + numbers.minor.toNat / 2 ^ 8 * 2 ^ 20 := by
  rw [key, ProfileKey.device_ofIdentity numbers.inode_lt,
    toNat_encodeDevice numbers.major_lt numbers.minor_lt]

theorem major_eq : numbers.major.toNat = (numbers.key.device.toNat >>> 8) % 2 ^ 12 := by
  have major_lt := numbers.major_lt
  rw [toNat_device_key]
  omega

theorem minor_eq : numbers.minor.toNat =
    numbers.key.device.toNat % 2 ^ 8 + 2 ^ 8 * (numbers.key.device.toNat >>> 20) := by
  have major_lt := numbers.major_lt
  rw [toNat_device_key]
  omega

theorem inode_eq : numbers.inode.toNat = numbers.key.inode.toNat := by
  rw [key, ProfileKey.toNat_inode_ofIdentity, Nat.mod_eq_of_lt numbers.inode_lt]

end

theorem key_injective : Function.Injective key := by
  intro first second same
  apply FileNumbers.ext
  · rw [← UInt32.toNat_inj, major_eq, major_eq, same]
  · rw [← UInt32.toNat_inj, minor_eq, minor_eq, same]
  · rw [← UInt64.toNat_inj, inode_eq, inode_eq, same]

def ofKey (key : ProfileKey) : FileNumbers where
  major := .ofNat (key.device.toNat / 2 ^ 8 % 2 ^ 12)
  minor := .ofNat (key.device.toNat % 2 ^ 8 + 2 ^ 8 * (key.device.toNat / 2 ^ 20))
  inode := key.inode.toUInt64
  major_lt := by
    rw [UInt32.toNat_ofNat']
    exact Nat.lt_of_le_of_lt (Nat.mod_le _ _) (Nat.mod_lt _ (Nat.two_pow_pos 12))
  minor_lt := by
    have bound := key.device.toNat_lt
    rw [UInt32.toNat_ofNat']
    exact Nat.lt_of_le_of_lt (Nat.mod_le _ _) (by omega)
  inode_lt := key.inode.toNat_lt

theorem key_ofKey (key : ProfileKey) : (ofKey key).key = key := by
  have bound := key.device.toNat_lt
  have major : (ofKey key).major.toNat = key.device.toNat / 2 ^ 8 % 2 ^ 12 :=
    UInt32.toNat_ofNat'.trans (Nat.mod_eq_of_lt (by omega))
  have minor : (ofKey key).minor.toNat =
      key.device.toNat % 2 ^ 8 + 2 ^ 8 * (key.device.toNat / 2 ^ 20) :=
    UInt32.toNat_ofNat'.trans (Nat.mod_eq_of_lt (by omega))
  refine ProfileKey.eq_iff_halves.mpr ⟨?_, (inode_eq _).symm⟩
  rw [toNat_device_key, major, minor]
  omega

theorem key_eq_unconfined_iff (numbers : FileNumbers) :
    numbers.key = .unconfined ↔ numbers.major = 0 ∧ numbers.minor = 0 ∧ numbers.inode = 0 := by
  constructor
  · intro reserved
    have major := numbers.major_eq
    have minor := numbers.minor_eq
    have inode := numbers.inode_eq
    rw [reserved] at major minor inode
    exact ⟨UInt32.toNat_inj.mp major, UInt32.toNat_inj.mp minor, UInt64.toNat_inj.mp inode⟩
  · rintro ⟨major, minor, inode⟩
    rw [key, major, minor, inode]
    rfl

end FileNumbers

/-- Within the ranges of the kernel a key tells the numbers that it is made from, each word is the key of just
one choice of them, and the reserved key is that of three zeros alone. With inode numbers of any width, keys are
equal exactly if the low halves of these are and their high halves come to the same over the device numbers. -/
theorem FileNumbers.told_by_key :
    (∀ numbers : FileNumbers,
      numbers.major.toNat = (numbers.key.device.toNat >>> 8) % 2 ^ 12 ∧
        numbers.minor.toNat =
          numbers.key.device.toNat % 2 ^ 8 + 2 ^ 8 * (numbers.key.device.toNat >>> 20) ∧
        numbers.inode.toNat = numbers.key.inode.toNat) ∧
      (∀ raw : UInt64, ∃! numbers : FileNumbers, numbers.key = ⟨raw⟩) ∧
      (∀ numbers : FileNumbers, numbers.key = .unconfined ↔
        numbers.major = 0 ∧ numbers.minor = 0 ∧ numbers.inode = 0) ∧
      ∀ (device other : UInt32) (inode another : UInt64),
        ProfileKey.ofIdentity device inode = ProfileKey.ofIdentity other another ↔
          inode.toNat ≡ another.toNat [MOD 2 ^ 32] ∧
            device.toUInt64 ||| inode >>> 32 = other.toUInt64 ||| another >>> 32 := by
  refine ⟨fun numbers => ⟨numbers.major_eq, numbers.minor_eq, numbers.inode_eq⟩, fun raw => ?_,
    key_eq_unconfined_iff, fun _ _ _ _ => ProfileKey.ofIdentity_eq_iff⟩
  refine ⟨ofKey ⟨raw⟩, key_ofKey ⟨raw⟩, fun numbers made => ?_⟩
  exact key_injective (made.trans (key_ofKey ⟨raw⟩).symm)

end Confinement
