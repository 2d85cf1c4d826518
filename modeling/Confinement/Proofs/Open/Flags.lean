import Confinement.Open.Flags
import Confinement.Proofs.Access
import Mathlib.Data.Nat.Bitwise

/-! The access that an open call asks for, against the access that the kernel checks for it.

The kernel looks the two low bits of the flag word up in a table of four entries, and adds what truncation and
appending take. The classes derived from a flag word are these, but for one entry of the table: two low bits
that are both set count as reading alone.
-/

set_option autoImplicit false

namespace Confinement

/-! ## Words and bits -/

namespace Access

theorem ofBits_bits (access : Access) : ofBits access.bits.toInt32.toUInt32 = access := by
  obtain ⟨exec, write, read, append⟩ := access
  cases exec <;> cases write <;> cases read <;> cases append <;> decide

/-- Classes that are added on a condition are those of a set that may be empty. -/
theorem if_union {asked : Prop} [Decidable asked] {bit : Bool} (same : asked ↔ bit = true)
    (base extra : Access) :
    (if asked then base ∪ extra else base) = base ∪ (if bit then extra else .none) := by
  by_cases holds : asked
  · rw [if_pos holds, if_pos (same.mp holds)]
  · rw [if_neg holds, if_neg (mt same.mpr holds), union_none]

end Access

namespace OpenFlags

def word (openFlag : Int32) : Nat :=
  openFlag.toBitVec.toNat

theorem eq_iff_word_eq {first second : Int32} : first = second ↔ word first = word second := by
  rw [word, word, BitVec.toNat_inj, Int32.toBitVec_inj]

@[simp] theorem word_zero : word 0 = 0 := rfl

theorem word_and (first second : Int32) : word (first &&& second) = word first &&& word second := by
  rw [word, Int32.toBitVec_and, BitVec.toNat_and, word, word]

def low (openFlag : Int32) : Fin 4 :=
  Fin.ofNat 4 (word openFlag)

theorem and_accessMask_eq_iff {kind : Int32} {entry : Fin 4} (named : word kind = entry)
    (openFlag : Int32) : openFlag &&& accessMask = kind ↔ low openFlag = entry := by
  have masked : word openFlag &&& word accessMask = word openFlag % 4 :=
    Nat.and_two_pow_sub_one_eq_mod (word openFlag) 2
  rw [eq_iff_word_eq, word_and, masked, named, Fin.ext_iff]
  rfl

theorem and_ne_zero_iff {flag : Int32} {bit : Nat} (single : word flag = 2 ^ bit) (openFlag : Int32) :
    openFlag &&& flag ≠ 0 ↔ (word openFlag).testBit bit = true := by
  rw [Ne, eq_iff_word_eq, word_and, single, Nat.and_two_pow]
  cases (word openFlag).testBit bit with
  | false => simp
  | true => simp

/-! ## Tables of access modes -/

/-- The entry of a table at the two low bits of the flag word, with what is added to it: truncation (bit 9)
is to write, and appending (bit 10) is a class of its own. -/
def assembled (modes : Fin 4 → Access) (openFlag : Int32) : Access :=
  modes (low openFlag) ∪
    (if (word openFlag).testBit 9 then .onlyWrite else .none) ∪
    (if (word openFlag).testBit 10 then .onlyAppend else .none)

def kernelModes : Fin 4 → Access
  | 0 => .onlyRead
  | 1 => .onlyWrite
  | 2 => .onlyRead ∪ .onlyWrite
  | 3 => .onlyRead ∪ .onlyWrite

/-- The access that the kernel checks for a flag word. -/
def kernelAccess (openFlag : Int32) : Access :=
  assembled kernelModes openFlag

def derivedModes : Fin 4 → Access
  | 1 => .onlyWrite
  | 2 => .onlyRead ∪ .onlyWrite
  | _ => .onlyRead

/-- Both low bits are set, and the file is not to be emptied. -/
def Understated (openFlag : Int32) : Prop :=
  low openFlag = 3 ∧ (word openFlag).testBit 9 = false

theorem derivedModes_low (openFlag : Int32) :
    (if openFlag &&& accessMask = writeOnly then Access.onlyWrite
      else if openFlag &&& accessMask = readWrite then .onlyRead ∪ .onlyWrite
      else .onlyRead) = derivedModes (low openFlag) := by
  have one := and_accessMask_eq_iff (show word writeOnly = (1 : Fin 4) from rfl) openFlag
  have two := and_accessMask_eq_iff (show word readWrite = (2 : Fin 4) from rfl) openFlag
  by_cases write : openFlag &&& accessMask = writeOnly
  · rw [if_pos write, one.mp write]
    rfl
  by_cases both : openFlag &&& accessMask = readWrite
  · rw [if_neg write, if_pos both, two.mp both]
    rfl
  · rw [if_neg write, if_neg both, derivedModes]
    · exact mt one.mpr write
    · exact mt two.mpr both

theorem derivedAccess_eq_assembled (openFlag : Int32) :
    derivedAccess openFlag = assembled derivedModes openFlag := by
  have truncates := and_ne_zero_iff (show word truncate = 2 ^ 9 from rfl) openFlag
  have appends := and_ne_zero_iff (show word append = 2 ^ 10 from rfl) openFlag
  unfold derivedAccess assembled
  rw [derivedModes_low, ← Access.if_union truncates, ← Access.if_union appends]

/-- Where the entries of two tables agree, so do the classes that are assembled from them. -/
theorem assembled_eq_of_entry {first second : Fin 4 → Access} {openFlag : Int32}
    (same : first (low openFlag) = second (low openFlag)) :
    assembled first openFlag = assembled second openFlag := by
  rw [assembled, assembled, same]

theorem derivedModes_eq_of_ne {entry : Fin 4} (other : entry ≠ 3) :
    derivedModes entry = kernelModes entry := by
  revert entry
  decide

theorem derivedAccess_eq_of_not_understated {openFlag : Int32} (full : ¬ Understated openFlag) :
    derivedAccess openFlag = kernelAccess openFlag := by
  rw [derivedAccess_eq_assembled, kernelAccess]
  by_cases both : low openFlag = 3
  · have truncated : (word openFlag).testBit 9 = true :=
      Bool.not_eq_false _ ▸ fun bit => full ⟨both, bit⟩
    rw [assembled, assembled, both, truncated]
    rfl
  · exact assembled_eq_of_entry (derivedModes_eq_of_ne both)

theorem kernelAccess_of_understated {openFlag : Int32} (understated : Understated openFlag) :
    (kernelAccess openFlag).write = true ∧
      derivedAccess openFlag = { kernelAccess openFlag with write := false } := by
  obtain ⟨both, kept⟩ := understated
  rw [derivedAccess_eq_assembled, kernelAccess, assembled, assembled, both, kept]
  cases (word openFlag).testBit 10 <;> exact ⟨rfl, rfl⟩

theorem access_forOpen (openFlag : Int32) (mode : UInt16) :
    (forOpen openFlag mode).access = derivedAccess openFlag :=
  (derivedAccess openFlag).ofBits_bits

/-- The access that is asked for, by what the kernel checks: all of it, or all but to write. -/
inductive Requests (openFlag : Int32) : Access → Prop where
  | full (plain : ¬ Understated openFlag) : Requests openFlag (kernelAccess openFlag)
  | understated (both : Understated openFlag) (writes : (kernelAccess openFlag).write = true) :
      Requests openFlag { kernelAccess openFlag with write := false }

theorem Requests.eq_of_not_understated {openFlag : Int32} {requested : Access}
    (requests : Requests openFlag requested) (plain : ¬ Understated openFlag) :
    requested = kernelAccess openFlag := by
  cases requests with
  | full => rfl
  | understated both => exact absurd both plain

theorem Requests.eq_of_understated {openFlag : Int32} {requested : Access}
    (requests : Requests openFlag requested) (both : Understated openFlag) :
    requested = { kernelAccess openFlag with write := false } := by
  cases requests with
  | full plain => exact absurd both plain
  | understated => rfl

theorem requests_forOpen (openFlag : Int32) (mode : UInt16) :
    Requests openFlag (forOpen openFlag mode).access := by
  rw [access_forOpen]
  by_cases both : Understated openFlag
  · obtain ⟨writes, derived⟩ := kernelAccess_of_understated both
    rw [derived]
    exact .understated both writes
  · rw [derivedAccess_eq_of_not_understated both]
    exact .full both

example : (forOpen 3 0).access = .onlyRead ∧ kernelAccess 3 = .onlyRead ∪ .onlyWrite := by decide

end OpenFlags

end Confinement
