import Confinement.Proofs.Association
import Confinement.Table.Shard
import Mathlib.Data.List.Perm.Subperm

/-! The records of a shard, without regard to the order of their use.

What is found after an operation does not depend on ticks: it holds also of a shard whose counter has
started over. Only which record gives way to a new one is a matter of order.
-/

set_option autoImplicit false

namespace Confinement.Shard

open Association (keys)

variable {κ α : Type}

structure Bounded (shard : Shard κ α) : Prop where
  distinct : (keys shard.entries).Nodup
  room : shard.entries.length ≤ shard.capacity

theorem bounded_empty (capacity : Nat) : (empty capacity : Shard κ α).Bounded :=
  ⟨List.nodup_nil, Nat.zero_le _⟩

theorem bounded_clear (shard : Shard κ α) : shard.clear.Bounded :=
  ⟨List.nodup_nil, Nat.zero_le _⟩

theorem Bounded.of_keys {before after : Shard κ α} (bounded : before.Bounded)
    (sameKeys : keys after.entries = keys before.entries)
    (sameCapacity : after.capacity = before.capacity) : after.Bounded := by
  refine ⟨sameKeys ▸ bounded.distinct, ?_⟩
  have lengths := congrArg List.length sameKeys
  simp only [keys, List.length_map] at lengths
  rw [lengths, sameCapacity]
  exact bounded.room

variable [DecidableEq κ]

@[simp] theorem find?_count (shard : Shard κ α) (key : κ) :
    shard.count.find? key = shard.find? key := rfl

theorem find?_eq_none_iff (shard : Shard κ α) (key : κ) :
    shard.find? key = none ↔ key ∉ keys shard.entries := by
  rw [find?, Option.map_eq_none_iff, Association.find?_eq_none_iff]

/-- A shard with keys of a list only, of which one is missing, is smaller than the list. -/
theorem Bounded.size_lt {shard : Shard κ α} (bounded : shard.Bounded) {allowed : List κ}
    (among : keys shard.entries ⊆ allowed) {missing : κ} (member : missing ∈ allowed)
    (absent : shard.find? missing = none) : shard.size < allowed.length := by
  rw [find?_eq_none_iff] at absent
  have distinct : (missing :: keys shard.entries).Nodup :=
    List.nodup_cons.mpr ⟨absent, bounded.distinct⟩
  have contained : missing :: keys shard.entries ⊆ allowed := List.cons_subset.mpr ⟨member, among⟩
  have lengths := (distinct.subperm contained).length_le
  simpa [keys, size, Nat.succ_le_iff] using lengths

/-! ## Marking a use -/

theorem touch_absent {shard : Shard κ α} {key : κ} (absent : shard.find? key = none) :
    shard.touch key = (shard.count, false) := by
  rw [find?, Option.map_eq_none_iff] at absent
  simp [touch, absent]

@[simp] theorem present_touch (shard : Shard κ α) (key : κ) :
    (shard.touch key).2 = (shard.find? key).isSome := by
  cases found : Association.find? key shard.entries <;> simp [touch, find?, found]

@[simp] theorem find?_touch (shard : Shard κ α) (key other : κ) :
    (shard.touch key).1.find? other = shard.find? other := by
  cases found : Association.find? key shard.entries with
  | none => simp [touch, found]
  | some entry =>
    by_cases same : other = key
    · simp [touch, find?, found, same]
    · simp [touch, find?, found, same]

@[simp] theorem keys_touch (shard : Shard κ α) (key : κ) :
    keys (shard.touch key).1.entries = keys shard.entries := by
  cases found : Association.find? key shard.entries <;> simp [touch, found, count]

@[simp] theorem capacity_touch (shard : Shard κ α) (key : κ) :
    (shard.touch key).1.capacity = shard.capacity := by
  cases found : Association.find? key shard.entries <;> simp [touch, found, count]

@[simp] theorem uses_touch (shard : Shard κ α) (key : κ) :
    (shard.touch key).1.uses = shard.uses + 1 := by
  cases found : Association.find? key shard.entries <;> simp [touch, found, count]

theorem Bounded.touch {shard : Shard κ α} (bounded : shard.Bounded) (key : κ) :
    (shard.touch key).1.Bounded :=
  bounded.of_keys (shard.keys_touch key) (shard.capacity_touch key)

/-! ## Changing and removing a record -/

@[simp] theorem find?_setValue (shard : Shard κ α) (key other : κ) (change : α → α) :
    (shard.setValue key change).find? other =
      if other = key then (shard.find? other).map change else shard.find? other := by
  by_cases same : other = key
  · cases found : Association.find? key shard.entries <;> simp [setValue, find?, same, found]
  · simp [setValue, find?, same]

@[simp] theorem keys_setValue (shard : Shard κ α) (key : κ) (change : α → α) :
    keys (shard.setValue key change).entries = keys shard.entries := by
  simp [setValue]

@[simp] theorem uses_setValue (shard : Shard κ α) (key : κ) (change : α → α) :
    (shard.setValue key change).uses = shard.uses := rfl

theorem setValue_absent {shard : Shard κ α} {key : κ} (absent : shard.find? key = none)
    (change : α → α) : shard.setValue key change = shard := by
  rw [find?_eq_none_iff] at absent
  simp [setValue, Association.adjust_of_absent absent]

theorem Bounded.setValue {shard : Shard κ α} (bounded : shard.Bounded) (key : κ)
    (change : α → α) : (shard.setValue key change).Bounded :=
  bounded.of_keys (shard.keys_setValue key change) rfl

@[simp] theorem removed_remove (shard : Shard κ α) (key : κ) :
    (shard.remove key).2 = shard.find? key := by
  cases found : Association.find? key shard.entries <;> simp [remove, find?, found]

theorem entries_remove (shard : Shard κ α) (key : κ) :
    (shard.remove key).1.entries = Association.erase key shard.entries := by
  cases found : Association.find? key shard.entries with
  | none =>
    have absent := (Association.find?_eq_none_iff key shard.entries).mp found
    simp [remove, found, Association.erase_of_absent absent]
  | some entry => simp [remove, found]

@[simp] theorem capacity_remove (shard : Shard κ α) (key : κ) :
    (shard.remove key).1.capacity = shard.capacity := by
  cases found : Association.find? key shard.entries <;> simp [remove, found]

@[simp] theorem uses_remove (shard : Shard κ α) (key : κ) :
    (shard.remove key).1.uses = shard.uses := by
  cases found : Association.find? key shard.entries <;> simp [remove, found]

@[simp] theorem find?_remove (shard : Shard κ α) (key other : κ) :
    (shard.remove key).1.find? other = if other = key then none else shard.find? other := by
  rw [find?, entries_remove, Association.find?_erase]
  by_cases same : other = key <;> simp [same, find?]

theorem Bounded.remove {shard : Shard κ α} (bounded : shard.Bounded) (key : κ) :
    (shard.remove key).1.Bounded := by
  refine ⟨?_, ?_⟩
  · rw [entries_remove]
    exact Association.nodup_erase bounded.distinct
  · rw [entries_remove, capacity_remove]
    exact Nat.le_trans (Association.erase_sublist key shard.entries).length_le bounded.room

/-! ## Making room -/

theorem makeRoom_of_room {capacity : Nat} {entries : List (κ × Entry α)}
    (room : entries.length < capacity) (order : List (UInt64 × κ)) (dropped : Bool) :
    makeRoom capacity order entries dropped = ⟨order, entries, dropped, true⟩ := by
  cases order with
  | nil => simp [makeRoom, room]
  | cons oldest rest => simp [makeRoom, room]

theorem makeRoom_sublist (capacity : Nat) (order : List (UInt64 × κ))
    (entries : List (κ × Entry α)) (dropped : Bool) :
    (makeRoom capacity order entries dropped).entries.Sublist entries := by
  induction order generalizing entries dropped with
  | nil => exact List.Sublist.refl _
  | cons oldest rest ih =>
    by_cases room : entries.length < capacity
    · rw [makeRoom_of_room room]
    · rw [makeRoom, if_neg room]
      exact (ih _ _).trans (Association.erase_sublist _ _)

theorem makeRoom_enough (capacity : Nat) (order : List (UInt64 × κ))
    (entries : List (κ × Entry α)) (dropped : Bool) :
    (makeRoom capacity order entries dropped).enough =
      decide ((makeRoom capacity order entries dropped).entries.length < capacity) := by
  induction order generalizing entries dropped with
  | nil => rfl
  | cons oldest rest ih =>
    by_cases room : entries.length < capacity
    · simp [makeRoom_of_room room, room]
    · rw [makeRoom, if_neg room]
      exact ih _ _

theorem makeRoom_dropped_true (capacity : Nat) (order : List (UInt64 × κ))
    (entries : List (κ × Entry α)) :
    (makeRoom capacity order entries true).dropped = true := by
  induction order generalizing entries with
  | nil => rfl
  | cons oldest rest ih =>
    by_cases room : entries.length < capacity
    · rw [makeRoom_of_room room]
    · rw [makeRoom, if_neg room]
      exact ih _

theorem makeRoom_kept {capacity : Nat} {order : List (UInt64 × κ)} {entries : List (κ × Entry α)}
    (kept : (makeRoom capacity order entries false).dropped = false) :
    (makeRoom capacity order entries false).entries = entries := by
  cases order with
  | nil => rfl
  | cons oldest rest =>
    by_cases room : entries.length < capacity
    · rw [makeRoom_of_room room]
    · rw [makeRoom, if_neg room, makeRoom_dropped_true] at kept
      cases kept

/-- Where the entries fit, room is missing in the end only if no entry could be dropped. -/
theorem makeRoom_refused {capacity : Nat} {order : List (UInt64 × κ)}
    {entries : List (κ × Entry α)} (fits : entries.length ≤ capacity) (dropped : Bool)
    (refused : (makeRoom capacity order entries dropped).enough = false) :
    (makeRoom capacity order entries dropped).entries = entries := by
  rw [makeRoom_enough, decide_eq_false_iff_not] at refused
  exact (makeRoom_sublist capacity order entries dropped).eq_of_length_le (by omega)

/-! ## Taking in a new record -/

inductive Inserted (before : Shard κ α) (key : κ) (value : α) :
    Shard κ α → Except Exhausted Bool → Prop where
  | kept {after : Shard κ α}
      (found : ∀ other, after.find? other =
        if other = key then some value else before.find? other) :
      Inserted before key value after (.ok false)
  | dropping {after : Shard κ α} (full : before.capacity ≤ before.size)
      (stored : after.find? key = some value)
      (others : ∀ other, other ≠ key →
        after.find? other = none ∨ after.find? other = before.find? other) :
      Inserted before key value after (.ok true)
  | refused {after : Shard κ α} {failure : Exhausted} (full : before.capacity ≤ before.size)
      (found : ∀ other, after.find? other = before.find? other) :
      Inserted before key value after (.error failure)

theorem insertNew_none {shard : Shard κ α} (none : shard.capacity = 0) (key : κ) (value : α) :
    shard.insertNew key value = (shard, .error ⟨0⟩) := by
  rw [insertNew, if_pos none]

theorem insertNew_refused {shard : Shard κ α} (some : shard.capacity ≠ 0)
    (refused : shard.room.enough = false) (key : κ) (value : α) :
    shard.insertNew key value =
      ({ shard with entries := shard.room.entries, order := shard.room.order },
        .error ⟨shard.capacity⟩) := by
  simp [insertNew, some, refused]

theorem insertNew_taken {shard : Shard κ α} (some : shard.capacity ≠ 0)
    (enough : shard.room.enough = true) (key : κ) (value : α) :
    shard.insertNew key value =
      ({ shard.count with
          entries := Association.put key ⟨value, shard.count.tick⟩ shard.room.entries
          order := insertTick shard.count.tick key shard.room.order }, .ok shard.room.dropped) := by
  simp [insertNew, some, enough]

theorem insertNew_of_room {shard : Shard κ α} (room : shard.size < shard.capacity) {key : κ}
    (absent : shard.find? key = none) (value : α) :
    shard.insertNew key value =
      ({ shard.count with
          entries := (key, ⟨value, shard.count.tick⟩) :: shard.entries
          order := insertTick shard.count.tick key shard.order }, .ok false) := by
  have free : shard.room = ⟨shard.order, shard.entries, false, true⟩ :=
    makeRoom_of_room room shard.order false
  have some : shard.capacity ≠ 0 := Nat.ne_of_gt (Nat.zero_lt_of_lt room)
  rw [insertNew_taken some (by rw [free]), free, Association.put,
    Association.erase_of_absent ((find?_eq_none_iff shard key).mp absent)]

theorem inserted_insertNew {shard : Shard κ α} (bounded : shard.Bounded) (key : κ) (value : α) :
    Inserted shard key value (shard.insertNew key value).1 (shard.insertNew key value).2 := by
  by_cases none : shard.capacity = 0
  · rw [insertNew_none none]
    exact .refused (none ▸ Nat.zero_le _) fun _ => rfl
  cases enough : shard.room.enough with
  | false =>
    rw [insertNew_refused none enough]
    have unchanged : shard.room.entries = shard.entries :=
      makeRoom_refused bounded.room false enough
    have full : shard.capacity ≤ shard.size := by
      rw [Shard.room, makeRoom_enough, ← Shard.room, unchanged] at enough
      simpa [size] using enough
    exact .refused full fun other => by simp [find?, unchanged]
  | true =>
    rw [insertNew_taken none enough]
    cases dropped : shard.room.dropped with
    | false =>
      have unchanged : shard.room.entries = shard.entries := makeRoom_kept dropped
      refine .kept fun other => ?_
      by_cases same : other = key <;> simp [find?, unchanged, same]
    | true =>
      have full : ¬ shard.entries.length < shard.capacity := by
        intro room
        simp [Shard.room, makeRoom_of_room room] at dropped
      refine .dropping (Nat.not_lt.mp full) (by simp [find?]) fun other different => ?_
      have part : shard.room.entries.Sublist shard.entries := makeRoom_sublist _ _ _ _
      cases found : Association.find? other shard.room.entries with
      | none => simp [find?, different, found]
      | some entry =>
        have before := Association.find?_of_sublist bounded.distinct part found
        simp [find?, different, found, before]

theorem Bounded.insertNew {shard : Shard κ α} (bounded : shard.Bounded) (key : κ) (value : α) :
    (shard.insertNew key value).1.Bounded := by
  have part : shard.room.entries.Sublist shard.entries := makeRoom_sublist _ _ _ _
  have distinct : (keys shard.room.entries).Nodup := (Association.keys_sublist part).nodup bounded.distinct
  by_cases none : shard.capacity = 0
  · rwa [insertNew_none none]
  cases enough : shard.room.enough with
  | false =>
    rw [insertNew_refused none enough]
    exact ⟨distinct, Nat.le_trans part.length_le bounded.room⟩
  | true =>
    rw [insertNew_taken none enough]
    refine ⟨Association.nodup_put distinct, ?_⟩
    have fits : shard.room.entries.length < shard.capacity := by
      rw [Shard.room, makeRoom_enough, decide_eq_true_eq] at enough
      exact enough
    have shorter := (Association.erase_sublist key shard.room.entries).length_le
    exact Nat.lt_of_le_of_lt shorter fits

@[simp] theorem capacity_insertNew (shard : Shard κ α) (key : κ) (value : α) :
    (shard.insertNew key value).1.capacity = shard.capacity := by
  by_cases none : shard.capacity = 0
  · rw [insertNew_none none]
  · cases enough : shard.room.enough <;> simp [insertNew, none, enough, count]

theorem uses_le_insertNew (shard : Shard κ α) (key : κ) (value : α) :
    shard.uses ≤ (shard.insertNew key value).1.uses := by
  by_cases none : shard.capacity = 0
  · simp [insertNew_none none]
  · cases enough : shard.room.enough <;> simp [insertNew, none, enough, count]

end Confinement.Shard
