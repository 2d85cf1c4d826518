import Confinement.Proofs.Table.Records

/-! Why a shard with some capacity takes every record.

A counter that starts over may stamp a record with the tick of another one, which then has no stamp in
the order. But each stamp that is there belongs to its record, and a full shard always has one, so that
there is a record to drop.
-/

set_option autoImplicit false

namespace Confinement

open Association (keys)

variable {κ α : Type}

namespace Shard

theorem insertTick_ne_nil (tick : UInt64) (key : κ) (order : List (UInt64 × κ)) :
    insertTick tick key order ≠ [] := by
  cases order with
  | nil => nofun
  | cons first rest =>
    unfold insertTick
    split
    · nofun
    · split <;> nofun

theorem mem_insertTick {tick : UInt64} {key : κ} {order : List (UInt64 × κ)} {stamp : UInt64 × κ}
    (member : stamp ∈ insertTick tick key order) : stamp = (tick, key) ∨ stamp ∈ order := by
  induction order with
  | nil => exact .inl (List.mem_singleton.mp member)
  | cons first rest ih =>
    unfold insertTick at member
    split at member
    · exact List.mem_cons.mp member
    · split at member
      · exact (List.mem_cons.mp member).imp_right (List.mem_cons_of_mem _)
      · rcases List.mem_cons.mp member with same | later
        · exact .inr (same ▸ List.mem_cons_self)
        · exact (ih later).imp_right (List.mem_cons_of_mem _)

theorem ascending_insertTick {tick : UInt64} {order : List (UInt64 × κ)}
    (ascending : (keys order).Pairwise (· < ·)) (key : κ) :
    (keys (insertTick tick key order)).Pairwise (· < ·) := by
  induction order with
  | nil => exact List.pairwise_singleton _ _
  | cons first rest ih =>
    obtain ⟨earliest, other⟩ := first
    obtain ⟨least, sorted⟩ := List.pairwise_cons.mp ascending
    unfold insertTick
    split
    case isTrue before =>
      refine List.pairwise_cons.mpr ⟨fun later member => ?_, ascending⟩
      rcases List.mem_cons.mp member with rfl | member
      · exact before
      · exact UInt64.lt_trans before (least later member)
    case isFalse notBefore =>
      split
      case isTrue same => exact List.pairwise_cons.mpr ⟨same ▸ least, sorted⟩
      case isFalse different =>
        have after : earliest < tick := by
          rw [UInt64.lt_iff_toNat_lt] at notBefore ⊢
          have apart : tick.toNat ≠ earliest.toNat := fun equal => different (UInt64.toNat_inj.mp equal)
          omega
        refine List.pairwise_cons.mpr ⟨fun later member => ?_, ih sorted⟩
        obtain ⟨stamp, inside, rfl⟩ := List.mem_map.mp member
        rcases mem_insertTick inside with rfl | old
        · exact after
        · exact least stamp.1 (Association.mem_keys_of_mem old)

variable [DecidableEq κ]

structure Linked (shard : Shard κ α) : Prop extends Bounded shard where
  own : ∀ tick key, (tick, key) ∈ shard.order →
    ∃ entry, Association.find? key shard.entries = some entry ∧ entry.lastUsed = tick
  ascending : (keys shard.order).Pairwise (· < ·)
  oldest : shard.capacity ≠ 0 → shard.capacity ≤ shard.size → shard.order ≠ []

theorem linked_empty (capacity : Nat) : (empty capacity : Shard κ α).Linked where
  toBounded := bounded_empty capacity
  own := nofun
  ascending := List.Pairwise.nil
  oldest some full := absurd (Nat.le_zero.mp full) some

theorem linked_clear (shard : Shard κ α) : shard.clear.Linked where
  toBounded := bounded_clear shard
  own := nofun
  ascending := List.Pairwise.nil
  oldest some full := absurd (Nat.le_zero.mp full) some

namespace Linked

variable {shard : Shard κ α}

theorem count (linked : shard.Linked) : shard.count.Linked :=
  ⟨⟨linked.distinct, linked.room⟩, linked.own, linked.ascending, linked.oldest⟩

theorem setValue (linked : shard.Linked) (key : κ) (change : α → α) :
    (shard.setValue key change).Linked where
  toBounded := linked.toBounded.setValue key change
  own tick other member := by
    obtain ⟨entry, found, same⟩ := linked.own tick other member
    rw [Shard.setValue, Association.find?_adjust, found]
    split
    · exact ⟨_, rfl, same⟩
    · exact ⟨entry, rfl, same⟩
  ascending := linked.ascending
  oldest some full := by
    refine linked.oldest some ?_
    simpa [Shard.setValue, Association.adjust, size] using full

theorem ne_of_mem_erase (linked : shard.Linked) {key other : κ} {entry : Entry α} {tick : UInt64}
    (found : Association.find? key shard.entries = some entry)
    (member : (tick, other) ∈ Association.erase entry.lastUsed shard.order) :
    (tick, other) ∈ shard.order ∧ other ≠ key := by
  obtain ⟨inside, kept⟩ := List.mem_filter.mp member
  refine ⟨inside, ?_⟩
  rintro rfl
  obtain ⟨again, present, same⟩ := linked.own tick other inside
  rw [found, Option.some.injEq] at present
  simp [present, same] at kept

theorem remove (linked : shard.Linked) (key : κ) : (shard.remove key).1.Linked := by
  cases found : Association.find? key shard.entries with
  | none => simpa [Shard.remove, found] using linked
  | some entry =>
    have present := Association.mem_keys_of_mem (Association.mem_of_find? found)
    have shorter := Association.length_erase linked.distinct present
    have room := linked.room
    refine ⟨linked.toBounded.remove key, fun tick other member => ?_, ?_, fun _ full => ?_⟩
    · simp only [Shard.remove, found] at member ⊢
      obtain ⟨inside, different⟩ := linked.ne_of_mem_erase found member
      rw [Association.find?_erase, if_neg different]
      exact linked.own tick other inside
    · simpa [Shard.remove, found] using
        linked.ascending.sublist (Association.keys_sublist (Association.erase_sublist _ _))
    · simp only [Shard.remove, found, size] at full
      omega

theorem touch (linked : shard.Linked) (key : κ) : (shard.touch key).1.Linked := by
  cases found : Association.find? key shard.entries with
  | none =>
    rw [touch_absent (by simp [find?, found])]
    exact linked.count
  | some entry =>
    refine ⟨linked.toBounded.touch key, fun tick other member => ?_, ?_, fun _ _ => ?_⟩
    · simp only [Shard.touch, found] at member ⊢
      rw [Association.find?_adjust]
      rcases mem_insertTick member with newest | older
      · obtain ⟨rfl, rfl⟩ := Prod.mk.inj newest
        rw [if_pos rfl, found]
        exact ⟨_, rfl, rfl⟩
      · obtain ⟨inside, different⟩ := linked.ne_of_mem_erase found older
        rw [if_neg different]
        exact linked.own tick other inside
    · simp only [Shard.touch, found]
      exact ascending_insertTick
        (linked.ascending.sublist (Association.keys_sublist (Association.erase_sublist _ _))) key
    · simp only [Shard.touch, found]
      exact insertTick_ne_nil _ _ _

/-- One record at most has to go, and each stamp that is left is still that of its record. -/
theorem makes_room (linked : shard.Linked) (some : shard.capacity ≠ 0) :
    shard.room.enough = true ∧ (keys shard.room.order).Pairwise (· < ·) ∧
      ∀ tick key, (tick, key) ∈ shard.room.order →
        ∃ entry, Association.find? key shard.room.entries = .some entry ∧ entry.lastUsed = tick := by
  by_cases fits : shard.entries.length < shard.capacity
  · rw [Shard.room, makeRoom_of_room fits]
    exact ⟨rfl, linked.ascending, linked.own⟩
  · cases stamps : shard.order with
    | nil => exact absurd stamps (linked.oldest some (Nat.not_lt.mp fits))
    | cons first rest =>
      obtain ⟨tick, oldest⟩ := first
      have ascending := linked.ascending
      rw [stamps, Association.keys_cons, List.pairwise_cons] at ascending
      obtain ⟨entry, found, same⟩ := linked.own tick oldest (stamps ▸ List.mem_cons_self)
      have present := Association.mem_keys_of_mem (Association.mem_of_find? found)
      have shorter := Association.length_erase linked.distinct present
      have bound := linked.toBounded.room
      have enough : (Association.erase oldest shard.entries).length < shard.capacity := by omega
      rw [Shard.room, stamps, makeRoom, if_neg fits, makeRoom_of_room enough]
      refine ⟨rfl, ascending.2, fun later key member => ?_⟩
      obtain ⟨other, stored, again⟩ := linked.own later key (stamps ▸ List.mem_cons_of_mem _ member)
      have different : key ≠ oldest := by
        rintro rfl
        rw [found, Option.some.injEq] at stored
        have later : tick < later := ascending.1 later (Association.mem_keys_of_mem member)
        rw [← again, ← stored, same] at later
        exact UInt64.lt_irrefl _ later
      rw [Association.find?_erase, if_neg different]
      exact ⟨other, stored, again⟩

theorem insertNew (linked : shard.Linked) {key : κ} (absent : shard.find? key = none) (value : α) :
    (shard.insertNew key value).1.Linked := by
  by_cases none : shard.capacity = 0
  · rwa [insertNew_none none]
  obtain ⟨enough, ascending, stamps⟩ := linked.makes_room none
  have gone : Association.find? key shard.room.entries = .none := by
    rw [find?_eq_none_iff] at absent
    rw [Association.find?_eq_none_iff]
    exact fun member => absent ((Association.keys_sublist (makeRoom_sublist _ _ _ _)).subset member)
  have bounded := linked.toBounded.insertNew key value
  rw [insertNew_taken none enough] at bounded ⊢
  refine ⟨bounded, fun tick other member => ?_, ascending_insertTick ascending key, fun _ _ =>
    insertTick_ne_nil _ _ _⟩
  rw [Association.find?_put]
  rcases mem_insertTick member with newest | older
  · obtain ⟨rfl, rfl⟩ := Prod.mk.inj newest
    rw [if_pos rfl]
    exact ⟨_, rfl, rfl⟩
  · obtain ⟨entry, found, same⟩ := stamps tick other older
    have different : other ≠ key := by
      rintro rfl
      rw [gone] at found
      cases found
    rw [if_neg different]
    exact ⟨entry, found, same⟩

end Linked

end Shard

namespace Table

variable [DecidableEq κ]

theorem bounded_of_linked {table : Table κ α} (linked : table.Each Shard.Linked) : table.Bounded :=
  linked.imp fun _ shard => shard.toBounded

/-- An update never fails where the shard of the key has room for some records. -/
theorem Each.update_taken {table : Table κ α} (linked : table.Each Shard.Linked) {key : κ}
    (some : (table.shardOf key).capacity ≠ 0) (value : α) :
    ∃ previous, (table.update key value).2 = .ok previous := by
  cases present : table.find? key with
  | some old =>
    rw [update_present present]
    exact ⟨_, rfl⟩
  | none =>
    have some : (table.shardOf key).count.capacity ≠ 0 := some
    obtain ⟨enough, _, _⟩ := (linked.shardOf key).count.makes_room some
    rw [update_absent present, Shard.insertNew_taken some enough]
    exact ⟨_, rfl⟩

/-- An update of a table that has room for some records in each shard never fails. -/
theorem Each.update_ok {table : Table κ α} (linked : table.Each Shard.Linked)
    (roomy : table.Roomy) (key : κ) (value : α) :
    ∃ previous, (table.update key value).2 = .ok previous :=
  linked.update_taken (roomy.shardOf key) value

end Table

end Confinement
