import Confinement.Event
import Mathlib.Data.Nat.Digits.Defs

/-! The bytes in which a denial is recorded, there and back.

A number of a fixed width and its bytes tell the same, so a record is read from its bytes whatever comes behind
them, and any sixteen bytes are those of the record that is read from them.
-/

set_option autoImplicit false

namespace Confinement.Event

/-! ## Numbers of a fixed width -/

@[simp] theorem length_littleEndian (width n : Nat) : (littleEndian width n).length = width := by
  induction width generalizing n with
  | zero => rfl
  | succ width ih => rw [littleEndian, List.length_cons, ih]

theorem ofLittleEndian_eq_ofDigits (bytes : List UInt8) :
    ofLittleEndian bytes = Nat.ofDigits 256 (bytes.map UInt8.toNat) := by
  induction bytes with
  | nil => rfl
  | cons byte rest ih => rw [ofLittleEndian, List.map_cons, Nat.ofDigits_cons, ih]

theorem ofLittleEndian_lt {bytes : List UInt8} {width : Nat} (long : bytes.length = width) :
    ofLittleEndian bytes < 256 ^ width := by
  rw [ofLittleEndian_eq_ofDigits, ← long, ← List.length_map UInt8.toNat]
  refine Nat.ofDigits_lt_base_pow_length (by decide) fun digit member => ?_
  obtain ⟨byte, _, rfl⟩ := List.mem_map.mp member
  exact byte.toNat_lt

theorem ofLittleEndian_littleEndian {width n : Nat} (fits : n < 256 ^ width) :
    ofLittleEndian (littleEndian width n) = n := by
  induction width generalizing n with
  | zero => exact (Nat.lt_one_iff.mp fits).symm
  | succ width ih =>
    have lower : n / 256 < 256 ^ width := Nat.div_lt_of_lt_mul (Nat.pow_succ' ▸ fits)
    have byte : (n % 256).toUInt8.toNat = n % 256 := Nat.mod_mod n 256
    rw [littleEndian, ofLittleEndian, ih lower, byte, Nat.mod_add_div]

theorem littleEndian_ofLittleEndian {bytes : List UInt8} {width : Nat} (long : bytes.length = width) :
    littleEndian width (ofLittleEndian bytes) = bytes := by
  subst long
  induction bytes with
  | nil => rfl
  | cons byte rest ih =>
    have bound := byte.toNat_lt
    have lowest : (byte.toNat + 256 * ofLittleEndian rest) % 256 = byte.toNat := by omega
    have others : (byte.toNat + 256 * ofLittleEndian rest) / 256 = ofLittleEndian rest := by omega
    rw [List.length_cons, ofLittleEndian, littleEndian, lowest, others, ih]
    exact congrArg (· :: rest) (UInt8.ofNat_toNat ..)

theorem toUInt32_littleEndian (word : UInt32) :
    (ofLittleEndian (littleEndian 4 word.toNat)).toUInt32 = word := by
  rw [ofLittleEndian_littleEndian word.toNat_lt]
  exact UInt32.ofNat_toNat

theorem toUInt64_littleEndian (word : UInt64) :
    (ofLittleEndian (littleEndian 8 word.toNat)).toUInt64 = word := by
  rw [ofLittleEndian_littleEndian word.toNat_lt]
  exact UInt64.ofNat_toNat

theorem littleEndian_toUInt32 {bytes : List UInt8} (long : bytes.length = 4) :
    littleEndian 4 (ofLittleEndian bytes).toUInt32.toNat = bytes := by
  have whole : (ofLittleEndian bytes).toUInt32.toNat = ofLittleEndian bytes :=
    UInt32.toNat_ofNat_of_lt' (ofLittleEndian_lt long)
  rw [whole, littleEndian_ofLittleEndian long]

theorem littleEndian_toUInt64 {bytes : List UInt8} (long : bytes.length = 8) :
    littleEndian 8 (ofLittleEndian bytes).toUInt64.toNat = bytes := by
  have whole : (ofLittleEndian bytes).toUInt64.toNat = ofLittleEndian bytes :=
    UInt64.toNat_ofNat_of_lt' (ofLittleEndian_lt long)
  rw [whole, littleEndian_ofLittleEndian long]

/-! ## The fields of a record -/

variable {pid tid key rest : List UInt8}

theorem decode?_append (four : pid.length = 4) (again : tid.length = 4) (eight : key.length = 8) :
    decode? (pid ++ (tid ++ (key ++ rest))) = some
      { pid := (ofLittleEndian pid).toUInt32
        tid := (ofLittleEndian tid).toUInt32
        profileKey := ⟨(ofLittleEndian key).toUInt64⟩ } := by
  have long : ¬ (pid ++ (tid ++ (key ++ rest))).length < 16 := by
    simp only [List.length_append]
    omega
  have behind : (pid ++ (tid ++ (key ++ rest))).drop 8 = key ++ rest := by
    rw [← List.append_assoc, List.drop_left' (by simp [four, again])]
  rw [decode?, if_neg long, behind, List.take_left' four, List.drop_left' four, List.take_left' again,
    List.take_left' eight]

theorem exists_fields {bytes : List UInt8} (long : 16 ≤ bytes.length) : ∃ pid tid key rest,
    pid.length = 4 ∧ tid.length = 4 ∧ key.length = 8 ∧ bytes = pid ++ (tid ++ (key ++ rest)) := by
  refine ⟨bytes.take 4, (bytes.drop 4).take 4, ((bytes.drop 4).drop 4).take 8,
    ((bytes.drop 4).drop 4).drop 8, ?_, ?_, ?_, ?_⟩
  · rw [List.length_take]
    omega
  · rw [List.length_take, List.length_drop]
    omega
  · rw [List.length_take, List.length_drop, List.length_drop]
    omega
  · rw [List.take_append_drop, List.take_append_drop, List.take_append_drop]

@[simp] theorem length_encode (event : Event) : event.encode.length = 16 := by
  simp [encode]

theorem decode?_encode_append (event : Event) (rest : List UInt8) :
    decode? (event.encode ++ rest) = some event := by
  rw [encode, List.append_assoc, List.append_assoc, decode?_append (length_littleEndian 4 _)
    (length_littleEndian 4 _) (length_littleEndian 8 _), toUInt32_littleEndian, toUInt32_littleEndian,
    toUInt64_littleEndian]

theorem decode?_eq_none_iff {bytes : List UInt8} : decode? bytes = none ↔ bytes.length < 16 := by
  unfold decode?
  split <;> simp [*]

theorem exists_decode? {bytes : List UInt8} (long : 16 ≤ bytes.length) :
    ∃ event, decode? bytes = some event ∧ event.encode = bytes.take 16 := by
  obtain ⟨pid, tid, key, rest, four, again, eight, rfl⟩ := exists_fields long
  refine ⟨_, decode?_append four again eight, ?_⟩
  have record : (pid ++ tid ++ key).length = 16 := by simp [four, again, eight]
  rw [encode, littleEndian_toUInt32 four, littleEndian_toUInt32 again, littleEndian_toUInt64 eight,
    ← List.append_assoc, ← List.append_assoc, List.take_left' record]

/-- The bytes are the digits of one number in base 256, in which the process number is the lowest part. -/
theorem ofDigits_encode (event : Event) :
    Nat.ofDigits 256 (event.encode.map UInt8.toNat) =
      event.pid.toNat + 2 ^ 32 * event.tid.toNat + 2 ^ 64 * event.profileKey.raw.toNat := by
  have pid : ofLittleEndian (littleEndian 4 event.pid.toNat) = event.pid.toNat :=
    ofLittleEndian_littleEndian event.pid.toNat_lt
  have tid : ofLittleEndian (littleEndian 4 event.tid.toNat) = event.tid.toNat :=
    ofLittleEndian_littleEndian event.tid.toNat_lt
  have key : ofLittleEndian (littleEndian 8 event.profileKey.raw.toNat) = event.profileKey.raw.toNat :=
    ofLittleEndian_littleEndian event.profileKey.raw.toNat_lt
  simp only [encode, List.map_append, Nat.ofDigits_append, ← ofLittleEndian_eq_ofDigits, pid, tid, key,
    List.length_append, List.length_map, length_littleEndian, Nat.reduceAdd, Nat.reducePow]

/-- A record is read from its bytes and whatever comes behind them. Fewer than sixteen bytes are no record, and
any others are read as the one that is written as the first sixteen of them. These are the bytes of the three
numbers, one above the other, with the lowest byte first. -/
theorem codec_inverse :
    (∀ (event : Event) (rest : List UInt8), decode? (event.encode ++ rest) = some event) ∧
      (∀ bytes, decode? bytes = none ↔ bytes.length < 16) ∧
      (∀ bytes, 16 ≤ bytes.length →
        ∃ event, decode? bytes = some event ∧ event.encode = bytes.take 16) ∧
      ∀ event : Event, event.encode.length = 16 ∧ Nat.ofDigits 256 (event.encode.map UInt8.toNat) =
        event.pid.toNat + 2 ^ 32 * event.tid.toNat + 2 ^ 64 * event.profileKey.raw.toNat :=
  ⟨decode?_encode_append, fun _ => decode?_eq_none_iff, fun _ => exists_decode?,
    fun event => ⟨event.length_encode, event.ofDigits_encode⟩⟩

end Confinement.Event
