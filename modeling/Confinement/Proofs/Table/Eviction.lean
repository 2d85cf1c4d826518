import Confinement.Proofs.Table.Linked

/-! Which record gives way to a new one, and what is left of the table without it.

A full shard drops the record at the head of its order and no other, and then takes the new one in as if the
old one had been deleted before. This holds also of a shard whose counter has started over.
-/

set_option autoImplicit false

namespace Confinement

open Association (keys)

variable {κ α : Type}

namespace Shard

variable [DecidableEq κ] {shard : Shard κ α} {key oldest : κ}

/-- The key is at the head of the order, where the record stands that has to go first. -/
def Oldest (shard : Shard κ α) (key : κ) : Prop :=
  shard.order.head?.map Prod.snd = some key

theorem Linked.room_full (linked : shard.Linked) (some : shard.capacity ≠ 0)
    (full : shard.capacity ≤ shard.size) :
    ∃ oldest, shard.Oldest oldest ∧ shard.find? oldest ≠ none ∧
      (shard.remove oldest).1.size < shard.capacity ∧
      shard.room = ⟨(shard.remove oldest).1.order, (shard.remove oldest).1.entries, true, true⟩ := by
  cases stamps : shard.order with
  | nil => exact absurd stamps (linked.oldest some full)
  | cons first rest =>
    obtain ⟨tick, oldest⟩ := first
    obtain ⟨entry, found, same⟩ := linked.own tick oldest (stamps ▸ List.mem_cons_self)
    have ascending := linked.ascending
    rw [stamps, Association.keys_cons, List.pairwise_cons] at ascending
    have distinct : tick ∉ keys rest := fun member => UInt64.lt_irrefl _ (ascending.1 tick member)
    have present := Association.mem_keys_of_mem (Association.mem_of_find? found)
    have shorter := Association.length_erase linked.distinct present
    have bound := linked.toBounded.room
    have full : ¬ shard.entries.length < shard.capacity := Nat.not_lt.mpr full
    have fits : (Association.erase oldest shard.entries).length < shard.capacity := by omega
    have removed : (shard.remove oldest).1 =
        { shard with entries := Association.erase oldest shard.entries, order := rest } := by
      simp [Shard.remove, found, stamps, same, Association.erase_cons,
        Association.erase_of_absent distinct]
    refine ⟨oldest, by rw [Oldest, stamps]; rfl, by simp [find?, found], removed ▸ fits, ?_⟩
    rw [removed, Shard.room, stamps, makeRoom, if_neg full, makeRoom_of_room fits]

/-- A full shard takes a new record in as if its oldest one had been removed before. -/
theorem Linked.insertNew_full (linked : shard.Linked) (some : shard.capacity ≠ 0)
    (full : shard.capacity ≤ shard.size) (key : κ) (value : α) :
    ∃ oldest, shard.Oldest oldest ∧ shard.find? oldest ≠ none ∧
      (shard.remove oldest).1.insertNew key value = ((shard.insertNew key value).1, .ok false) ∧
      (shard.insertNew key value).2 = .ok true := by
  obtain ⟨oldest, head, present, fits, room⟩ := linked.room_full some full
  have free : (shard.remove oldest).1.room =
      ⟨(shard.remove oldest).1.order, (shard.remove oldest).1.entries, false, true⟩ := by
    rw [Shard.room, capacity_remove, makeRoom_of_room fits]
  refine ⟨oldest, head, present, ?_, ?_⟩
  · rw [insertNew_taken (by simpa using some) (by rw [free]), insertNew_taken some (by rw [room]), room,
      free]
    simp [Shard.count, tick]
  · rw [insertNew_taken some (by rw [room]), room]

theorem Linked.eq_of_tick (linked : shard.Linked) {tick : UInt64} {first second : κ}
    (left : (tick, first) ∈ shard.order) (right : (tick, second) ∈ shard.order) : first = second := by
  have distinct : (keys shard.order).Nodup := linked.ascending.imp UInt64.ne_of_lt
  have found := Association.find?_of_mem distinct left
  rw [Association.find?_of_mem distinct right] at found
  exact (Option.some.inj found).symm

end Shard

namespace Table

variable {table : Table κ α} {key other : κ}

theorem shardOf_congr (same : table.shardIndex key = table.shardIndex other) :
    table.shardOf key = table.shardOf other := by
  rw [shardOf, shardOf, same]

def recount (table : Table κ α) (more : Nat) : Table κ α :=
  { table with evicted := table.evicted + more }

variable [DecidableEq κ] {victim : κ} {value : α}

end Table

end Confinement
