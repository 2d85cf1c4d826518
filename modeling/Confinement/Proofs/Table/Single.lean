import Confinement.Proofs.Table.Succession

/-! Tables of one shard, where all keys share one capacity. -/

set_option autoImplicit false

namespace Confinement.Table

open Association (keys)

variable {κ α β : Type}

def Single (table : Table κ α) (capacity : Nat) : Prop :=
  table.shards.map Shard.capacity = [capacity]

theorem single_new (name : String) (capacity : Nat) (assignment : κ → UInt64) :
    (new name capacity 1 assignment : Table κ α).Single capacity := by
  simp [Single, new, shardCapacities, Shard.empty, Nat.mod_one]

theorem single_none (name : String) (shards : Nat) (assignment : κ → UInt64) :
    (new name 0 shards assignment : Table κ α).Single 0 := by
  have one : shardCount 0 shards = 1 := by
    rw [shardCount]
    omega
  simp [Single, new, shardCapacities, Shard.empty, one]

theorem Single.shardIndex {table : Table κ α} {capacity : Nat} (single : table.Single capacity)
    (key : κ) : table.shardIndex key = 0 := by
  obtain ⟨shard, shards, _⟩ := List.map_eq_singleton_iff.mp single
  simp [Table.shardIndex, shards, Nat.mod_one]

theorem Single.shardOf {table : Table κ α} {capacity : Nat} (single : table.Single capacity) :
    ∃ shard ∈ table.shards, shard.capacity = capacity ∧ ∀ key, table.shardOf key = shard := by
  obtain ⟨shard, shards, same⟩ := List.map_eq_singleton_iff.mp single
  refine ⟨shard, by simp [shards], same, fun key => ?_⟩
  rw [Table.shardOf, single.shardIndex, shards]
  rfl

variable [DecidableEq κ]

theorem Follows.single {before after : Table κ α} (follows : Follows before after) {capacity : Nat}
    (single : before.Single capacity) : after.Single capacity := by
  obtain ⟨early, shards, same⟩ := List.map_eq_singleton_iff.mp single
  have one : after.shards.length = 1 := by rw [follows.length, shards, List.length_singleton]
  obtain ⟨late, later⟩ := List.length_eq_one_iff.mp one
  have step := follows.shard 0 early late (by simp [shards]) (by simp [later])
  simp [Single, later, step.capacity, same]

/-- Where the keys of one table are among those of another of the same capacity, and one key is not,
the table has room for that key. -/
theorem Single.lt_of_missing {table : Table κ α} {other : Table κ β} {capacity : Nat}
    (single : table.Single capacity) (bounded : table.Bounded) (otherSingle : other.Single capacity)
    (otherBounded : other.Bounded)
    (among : ∀ key, table.find? key ≠ none → other.find? key ≠ none) {missing : κ}
    (absent : table.find? missing = none) (present : other.find? missing ≠ none) :
    (table.shardOf missing).size < (table.shardOf missing).capacity := by
  obtain ⟨shard, member, same, only⟩ := single.shardOf
  obtain ⟨larger, inside, otherSame, otherOnly⟩ := otherSingle.shardOf
  simp only [find?, only, otherOnly, ne_eq, Shard.find?_eq_none_iff, not_not] at among present
  rw [find?, only] at absent
  have smaller := (bounded.holds shard member).size_lt among present absent
  have room := (otherBounded.holds larger inside).room
  simp only [keys, List.length_map] at smaller
  rw [only]
  omega

/-! ## Without any capacity -/

theorem Single.find?_none {table : Table κ α} (single : table.Single 0) (bounded : table.Bounded)
    (key : κ) : table.find? key = none := by
  obtain ⟨shard, member, same, only⟩ := single.shardOf
  have room := (bounded.holds shard member).room
  rw [same, Nat.le_zero, List.length_eq_zero_iff] at room
  rw [find?, only, Shard.find?_eq_none_iff, room]
  exact List.not_mem_nil

theorem Single.update_none {table : Table κ α} (single : table.Single 0) (bounded : table.Bounded)
    (key : κ) (value : α) : (table.update key value).2 = .error ⟨0⟩ := by
  obtain ⟨shard, member, same, only⟩ := single.shardOf
  have none : shard.count.capacity = 0 := same
  rw [update_absent (single.find?_none bounded key), only, Shard.insertNew_none none]

end Confinement.Table
