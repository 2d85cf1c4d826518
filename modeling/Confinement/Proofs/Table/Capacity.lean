import Confinement.Proofs.Table.Succession

/-! How many records a table may hold: its shards share out the capacity exactly. -/

set_option autoImplicit false

namespace Confinement.Table

variable {κ α : Type}

theorem total_shares (count share rest : Nat) :
    ((List.range count).map fun i => share + if i < rest then 1 else 0).foldl (· + ·) 0 =
      count * share + min count rest := by
  induction count with
  | zero => simp
  | succ count ih =>
    rw [List.range_succ, List.map_append, List.foldl_append, ih, Nat.succ_mul]
    by_cases extra : count < rest <;> simp [extra] <;> omega

theorem total_shardCapacities (capacity shards : Nat) :
    (shardCapacities capacity shards).foldl (· + ·) 0 = capacity := by
  have positive : 0 < shardCount capacity shards := by
    rw [shardCount]
    omega
  have less := Nat.mod_lt capacity positive
  have whole := Nat.div_add_mod capacity (shardCount capacity shards)
  rw [shardCapacities, total_shares]
  omega

theorem total_size_le {shards : List (Shard κ α)} (room : ∀ shard ∈ shards, shard.size ≤ shard.capacity)
    {held allowed : Nat} (less : held ≤ allowed) :
    (shards.map Shard.size).foldl (· + ·) held ≤
      (shards.map Shard.capacity).foldl (· + ·) allowed := by
  induction shards generalizing held allowed with
  | nil => exact less
  | cons shard rest ih =>
    have fits := room shard List.mem_cons_self
    exact ih (fun other member => room other (List.mem_cons_of_mem _ member))
      (Nat.add_le_add less fits)

variable [DecidableEq κ]

theorem Follows.capacities {before after : Table κ α} (follows : Follows before after) :
    after.shards.map Shard.capacity = before.shards.map Shard.capacity := by
  apply List.ext_getElem
  · simp [follows.length]
  · intro index late early
    rw [List.length_map] at late early
    rw [List.getElem_map, List.getElem_map]
    exact (follows.shard index _ _ (List.getElem?_eq_getElem early)
      (List.getElem?_eq_getElem late)).capacity

theorem Follows.size_le {name : String} {capacity shards : Nat} {assignment : κ → UInt64}
    {table : Table κ α} (follows : Follows (new name capacity shards assignment) table) :
    table.size ≤ capacity := by
  have bounded : table.Bounded := follows.bounded (each_new _ _ _ _ Shard.bounded_empty)
  have total : (table.shards.map Shard.capacity).foldl (· + ·) 0 = capacity := by
    have same : Shard.capacity ∘ (Shard.empty : Nat → Shard κ α) = id := rfl
    rw [follows.capacities, new, List.map_map, same, List.map_id]
    exact total_shardCapacities capacity shards
  rw [← total]
  exact total_size_le (fun shard member => (bounded.holds shard member).room) (Nat.le_refl 0)

end Confinement.Table
