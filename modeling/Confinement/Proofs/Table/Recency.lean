import Confinement.Proofs.Table.Eviction
import Confinement.Proofs.Table.Refinement
import Confinement.Proofs.Table.Single

/-! The order of use in the shard of a key, after each operation on the table. -/

set_option autoImplicit false

namespace Confinement

variable {κ α : Type}

namespace RecencyTable

theorem shardOf_withShard (table : RecencyTable κ α) (some : table.shards ≠ []) (key other : κ)
    (shard : Recency κ α) :
    (table.withShard key shard).shardOf other =
      if table.shardIndex other = table.shardIndex key then shard else table.shardOf other := by
  have inside : table.shardIndex key < table.shards.length :=
    Nat.mod_lt _ (List.length_pos_iff.mpr some)
  have index : (table.withShard key shard).shardIndex other = table.shardIndex other := by
    simp [withShard, shardIndex]
  rw [shardOf, index]
  split
  next same => simp [withShard, same, List.getD_eq_getElem?_getD, inside]
  next apart =>
    simp [withShard, List.getD_eq_getElem?_getD, List.getElem?_set_ne (Ne.symm apart), shardOf]

end RecencyTable

variable [DecidableEq κ]

namespace Table

def orderOf (table : Table κ α) (key : κ) : Recency κ α :=
  (table.shardOf key).recency

variable {table : Table κ α}

theorem orderOf_of_recency {before after : Table κ α} (some : before.shards ≠ []) {key : κ}
    {order : Recency κ α} {counted : Nat}
    (views : after.recency = { before.recency.withShard key order with evictions := counted })
    (other : κ) :
    after.orderOf other =
      if before.shardIndex other = before.shardIndex key then order else before.orderOf other := by
  have nonempty : before.recency.shards ≠ [] := by simpa [recency] using some
  have exchanged := before.recency.shardOf_withShard nonempty key other order
  rw [shardIndex_recency, shardIndex_recency, shardOf_recency] at exchanged
  rw [orderOf, ← shardOf_recency, views]
  exact exchanged

theorem Each.orderOf_lookup (ordered : table.Ordered) (key : κ)
    (fresh : (table.lookup key).1.Unwrapped) (other : κ) :
    (table.lookup key).1.orderOf other =
      if table.shardIndex other = table.shardIndex key then (table.orderOf key).touch key id
      else table.orderOf other := by
  have views := ordered.recency_lookup key fresh
  rw [shardOf_recency] at views
  exact orderOf_of_recency ordered.nonempty views other

theorem Each.orderOf_modify (ordered : table.Ordered) (key : κ) (change : α → α)
    (fresh : (table.modify key change).1.Unwrapped) (other : κ) :
    (table.modify key change).1.orderOf other =
      if table.shardIndex other = table.shardIndex key then (table.orderOf key).touch key change
      else table.orderOf other := by
  have views := ordered.recency_modify key change fresh
  rw [shardOf_recency] at views
  exact orderOf_of_recency ordered.nonempty views other

theorem Each.orderOf_delete (ordered : table.Ordered) (key other : κ) :
    (table.delete key).1.orderOf other =
      if table.shardIndex other = table.shardIndex key then (table.orderOf key).erase key
      else table.orderOf other := by
  have views := ordered.recency_delete key
  rw [shardOf_recency] at views
  exact orderOf_of_recency ordered.nonempty views other

theorem Each.orderOf_update_present (ordered : table.Ordered) {key : κ} {old : α}
    (present : table.find? key = some old) (value : α)
    (fresh : (table.update key value).1.Unwrapped) (other : κ) :
    (table.update key value).1.orderOf other =
      if table.shardIndex other = table.shardIndex key then
        (table.orderOf key).touch key fun _ => value
      else table.orderOf other := by
  have views := ordered.recency_update_present present value fresh
  rw [shardOf_recency] at views
  exact orderOf_of_recency ordered.nonempty views other

theorem Each.orderOf_update_absent (ordered : table.Ordered) {key : κ}
    (absent : table.find? key = none) (some : (table.shardOf key).capacity ≠ 0) (value : α)
    (fresh : (table.update key value).1.Unwrapped) (other : κ) :
    (table.update key value).1.orderOf other =
      if table.shardIndex other = table.shardIndex key then (table.orderOf key).insertNew key value
      else table.orderOf other := by
  obtain ⟨_, views⟩ := ordered.recency_update_absent absent some value fresh
  rw [shardOf_recency] at views
  exact orderOf_of_recency ordered.nonempty views other

theorem orderOf_clear (table : Table κ α) (key : κ) :
    table.clear.orderOf key = { table.orderOf key with records := [] } := by
  have index : table.clear.shardIndex key = table.shardIndex key := by simp [clear, shardIndex]
  rw [orderOf, shardOf, index, clear, List.getD_eq_getElem?_getD, List.getElem?_map, orderOf, shardOf,
    List.getD_eq_getElem?_getD]
  cases table.shards[table.shardIndex key]? <;> rfl

theorem orderOf_congr {key other : κ} (same : table.shardIndex key = table.shardIndex other) :
    table.orderOf key = table.orderOf other :=
  congrArg Shard.recency (shardOf_congr same)

@[simp] theorem capacity_orderOf (table : Table κ α) (key : κ) :
    (table.orderOf key).capacity = (table.shardOf key).capacity := rfl

theorem Each.find?_orderOf (ordered : table.Ordered) (key : κ) :
    (table.orderOf key).find? key = table.find? key :=
  (ordered.shardOf key).find?_recency key

theorem Each.length_orderOf_le (ordered : table.Ordered) (key : κ) :
    (table.orderOf key).records.length ≤ (table.orderOf key).capacity := by
  rw [orderOf, (ordered.shardOf key).length_records]
  exact (ordered.shardOf key).room

end Table

/-! ## Tables of one shard -/

def Recency.step (order : Recency κ α) : TableOperation κ α → Recency κ α
  | .update key value =>
    match order.find? key with
    | some _ => order.touch key fun _ => value
    | none => order.insertNew key value
  | .lookup key => order.touch key id
  | .modify key change => order.touch key change
  | .delete key => order.erase key
  | .clear => { order with records := [] }
  | .contains _ | .size | .evictions => order

namespace Table

variable {table : Table κ α} {capacity : Nat}

theorem Single.orderOf_congr (single : table.Single capacity) (key other : κ) :
    table.orderOf key = table.orderOf other :=
  Table.orderOf_congr ((single.shardIndex key).trans (single.shardIndex other).symm)

theorem Single.orderOf_perform (single : table.Single capacity) (some : capacity ≠ 0)
    (ordered : table.Ordered) (operation : TableOperation κ α)
    (fresh : (table.perform operation).1.Unwrapped) (key : κ) :
    (table.perform operation).1.orderOf key = (table.orderOf key).step operation := by
  have one := single.shardIndex
  cases operation with
  | update other value =>
    rw [perform_update] at fresh ⊢
    rw [single.orderOf_congr key other, Recency.step, ordered.find?_orderOf]
    cases present : table.find? other with
    | some old => rw [ordered.orderOf_update_present present value fresh, if_pos (by rw [one, one])]
    | none =>
      obtain ⟨shard, _, same, only⟩ := single.shardOf
      have room : (table.shardOf other).capacity ≠ 0 := by rwa [only, same]
      rw [ordered.orderOf_update_absent present room value fresh, if_pos (by rw [one, one])]
  | lookup other =>
    rw [single.orderOf_congr key other]
    exact (ordered.orderOf_lookup other fresh key).trans (if_pos (by rw [one, one]))
  | modify other change =>
    rw [single.orderOf_congr key other]
    exact (ordered.orderOf_modify other change fresh key).trans (if_pos (by rw [one, one]))
  | delete other =>
    rw [single.orderOf_congr key other]
    exact (ordered.orderOf_delete other key).trans (if_pos (by rw [one, one]))
  | clear => exact table.orderOf_clear key
  | contains | size | evictions => rfl

end Table

end Confinement
