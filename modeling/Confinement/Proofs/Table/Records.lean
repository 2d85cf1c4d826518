import Confinement.Proofs.Table.Shard
import Confinement.Table.Recency

/-! What is found in a table after each of its operations.

As for a shard, nothing here depends on ticks. An update either keeps all other records, or counts an
eviction and may lose some of them, or is refused and changes nothing.
-/

set_option autoImplicit false

namespace Confinement.Table

variable {κ α : Type}

structure Each (required : Shard κ α → Prop) (table : Table κ α) : Prop where
  nonempty : table.shards ≠ []
  holds : ∀ shard ∈ table.shards, required shard

abbrev Bounded (table : Table κ α) : Prop :=
  table.Each Shard.Bounded

abbrev Roomy (table : Table κ α) : Prop :=
  table.Each fun shard => shard.capacity ≠ 0

theorem length_shardCapacities (capacity shards : Nat) :
    (shardCapacities capacity shards).length = shardCount capacity shards := by
  simp [shardCapacities]

@[simp] theorem shardCount_one (capacity : Nat) : shardCount capacity 1 = 1 := by
  rw [shardCount]
  omega

theorem each_new {required : Shard κ α → Prop} (name : String) (capacity shards : Nat)
    (assignment : κ → UInt64) (empty : ∀ part, required (Shard.empty part)) :
    (new name capacity shards assignment).Each required where
  nonempty := by
    have positive : 0 < shardCount capacity shards := by
      rw [shardCount]
      omega
    rw [← List.length_pos_iff]
    simpa [new, length_shardCapacities] using positive
  holds shard member := by
    obtain ⟨part, _, rfl⟩ := List.mem_map.mp member
    exact empty part

theorem nonempty_new (name : String) (capacity shards : Nat) (assignment : κ → UInt64) :
    (new name capacity shards assignment : Table κ α).shards ≠ [] :=
  (each_new name capacity shards assignment fun _ => trivial : Each (fun _ => True) _).nonempty

/-- There are no more shards than records, so that no shard goes without room. -/
theorem roomy_new (name : String) {capacity : Nat} (some : 1 ≤ capacity) (shards : Nat)
    (assignment : κ → UInt64) : (new name capacity shards assignment : Table κ α).Roomy where
  nonempty := nonempty_new name capacity shards assignment
  holds shard member := by
    obtain ⟨part, inside, rfl⟩ := List.mem_map.mp member
    obtain ⟨index, _, rfl⟩ := List.mem_map.mp inside
    have positive : 0 < capacity / shardCount capacity shards := by
      apply Nat.div_pos <;> rw [shardCount] <;> omega
    change capacity / shardCount capacity shards + _ ≠ 0
    omega

@[simp] theorem shardIndex_withShard (table : Table κ α) (key other : κ) (shard : Shard κ α) :
    (table.withShard key shard).shardIndex other = table.shardIndex other := by
  simp [withShard, shardIndex]

namespace Each

variable {required : Shard κ α → Prop} {table : Table κ α}

theorem imp {weaker : Shard κ α → Prop} (each : table.Each required)
    (weaken : ∀ shard, required shard → weaker shard) : table.Each weaker :=
  ⟨each.nonempty, fun shard member => weaken shard (each.holds shard member)⟩

theorem index_lt (each : table.Each required) (key : κ) :
    table.shardIndex key < table.shards.length :=
  Nat.mod_lt _ (List.length_pos_iff.mpr each.nonempty)

theorem shardOf_mem (each : table.Each required) (key : κ) : table.shardOf key ∈ table.shards := by
  rw [Table.shardOf, List.getD_eq_getElem?_getD, List.getElem?_eq_getElem (each.index_lt key)]
  exact List.getElem_mem _

theorem shardOf (each : table.Each required) (key : κ) : required (table.shardOf key) :=
  each.holds _ (each.shardOf_mem key)

theorem shardOf_withShard (each : table.Each required) (key other : κ) (shard : Shard κ α) :
    (table.withShard key shard).shardOf other =
      if table.shardIndex other = table.shardIndex key then shard else table.shardOf other := by
  rw [Table.shardOf, shardIndex_withShard]
  by_cases same : table.shardIndex other = table.shardIndex key
  · simp [Table.withShard, same, List.getD_eq_getElem?_getD, each.index_lt key]
  · simp [Table.withShard, same, List.getD_eq_getElem?_getD, List.getElem?_set_ne (Ne.symm same),
      Table.shardOf]

end Each

theorem withShard_self {required : Shard κ α → Prop} {table : Table κ α} (each : table.Each required)
    (key : κ) : table.withShard key (table.shardOf key) = table := by
  have inside := each.index_lt key
  have same : table.shards.set (table.shardIndex key) (table.shardOf key) = table.shards := by
    rw [shardOf, List.getD_eq_getElem?_getD, List.getElem?_eq_getElem inside, Option.getD_some,
      List.set_getElem_self]
  rw [withShard, same]

variable [DecidableEq κ]

theorem Each.find?_withShard {required : Shard κ α → Prop} {table : Table κ α}
    (each : table.Each required) (key other : κ) (shard : Shard κ α) :
    (table.withShard key shard).find? other =
      if table.shardIndex other = table.shardIndex key then shard.find? other
      else table.find? other := by
  rw [find?, each.shardOf_withShard]
  by_cases same : table.shardIndex other = table.shardIndex key <;> simp [same, find?]

theorem find?_of_index {table : Table κ α} {key other : κ}
    (same : table.shardIndex other = table.shardIndex key) :
    table.find? other = (table.shardOf key).find? other := by
  rw [find?, shardOf, shardOf, same]

@[simp] theorem find?_new (name : String) (capacity shards : Nat) (assignment : κ → UInt64)
    (key : κ) : (new name capacity shards assignment : Table κ α).find? key = none := by
  have empty : Each (fun shard : Shard κ α => shard.find? key = none)
      (new name capacity shards assignment) := each_new name capacity shards assignment fun _ => rfl
  exact empty.shardOf key

/-! ## Each operation as the exchange of one shard -/

theorem lookup_eq (table : Table κ α) (key : κ) :
    table.lookup key =
      (table.withShard key ((table.shardOf key).touch key).1, table.find? key) := by
  cases found : (table.shardOf key).find? key <;> simp [lookup, find?, found]

theorem modify_eq (table : Table κ α) (key : κ) (change : α → α) :
    table.modify key change =
      (table.withShard key (((table.shardOf key).touch key).1.setValue key change),
        table.find? key) := by
  cases found : (table.shardOf key).find? key with
  | none =>
    have unchanged := Shard.setValue_absent
      (((table.shardOf key).find?_touch key key).trans found) change
    simp [modify, find?, found, unchanged]
  | some value => simp [modify, find?, found]

theorem delete_eq (table : Table κ α) (key : κ) :
    table.delete key =
      (table.withShard key ((table.shardOf key).remove key).1, table.find? key) := by
  simp [delete, find?]

theorem update_present {table : Table κ α} {key : κ} {old : α}
    (present : table.find? key = some old) (value : α) :
    table.update key value =
      (table.withShard key (((table.shardOf key).touch key).1.setValue key fun _ => value),
        .ok (some old)) := by
  rw [find?] at present
  simp [update, present]

theorem update_absent {table : Table κ α} {key : κ} (absent : table.find? key = none) (value : α) :
    table.update key value =
      match (table.shardOf key).count.insertNew key value with
      | (shard, .ok dropped) =>
        ({ table.withShard key shard with
            evicted := table.evicted + if dropped then 1 else 0 }, .ok none)
      | (shard, .error failure) => (table.withShard key shard, .error failure) := by
  rw [find?] at absent
  rw [update, Shard.touch_absent absent]
  cases answer : (table.shardOf key).count.insertNew key value with
  | mk shard result =>
    cases result with
    | error failure => simp [answer]
    | ok dropped => cases dropped <;> simp [answer, withShard]

/-! ## Uses in vain -/

theorem lookup_absent {table : Table κ α} {key : κ} (absent : table.find? key = none) :
    (table.lookup key).1 = table.withShard key (table.shardOf key).count := by
  rw [find?] at absent
  rw [lookup_eq, Shard.touch_absent absent]

theorem delete_absent {required : Shard κ α → Prop} {table : Table κ α} (each : table.Each required)
    {key : κ} (absent : table.find? key = none) : (table.delete key).1 = table := by
  rw [find?, Shard.find?, Option.map_eq_none_iff] at absent
  have same : ((table.shardOf key).remove key).1 = table.shardOf key := by
    simp [Shard.remove, absent]
  rw [delete_eq, same, withShard_self each]

/-! ## What is found afterwards -/

@[simp] theorem answer_lookup (table : Table κ α) (key : κ) :
    (table.lookup key).2 = table.find? key := by
  rw [lookup_eq]

@[simp] theorem answer_modify (table : Table κ α) (key : κ) (change : α → α) :
    (table.modify key change).2 = table.find? key := by
  rw [modify_eq]

@[simp] theorem answer_delete (table : Table κ α) (key : κ) :
    (table.delete key).2 = table.find? key := by
  rw [delete_eq]

namespace Each

variable {required : Shard κ α → Prop} {table : Table κ α}

theorem find?_lookup (each : table.Each required) (key other : κ) :
    (table.lookup key).1.find? other = table.find? other := by
  rw [lookup_eq, each.find?_withShard]
  by_cases same : table.shardIndex other = table.shardIndex key
  · rw [if_pos same, Shard.find?_touch, find?_of_index same]
  · rw [if_neg same]

theorem find?_modify (each : table.Each required) (key other : κ) (change : α → α) :
    (table.modify key change).1.find? other =
      if other = key then (table.find? other).map change else table.find? other := by
  rw [modify_eq, each.find?_withShard]
  by_cases same : table.shardIndex other = table.shardIndex key
  · rw [if_pos same, Shard.find?_setValue, Shard.find?_touch, find?_of_index same]
  · have different : other ≠ key := fun equal => same (by rw [equal])
    rw [if_neg same, if_neg different]

theorem find?_delete (each : table.Each required) (key other : κ) :
    (table.delete key).1.find? other = if other = key then none else table.find? other := by
  rw [delete_eq, each.find?_withShard]
  by_cases same : table.shardIndex other = table.shardIndex key
  · rw [if_pos same, Shard.find?_remove, find?_of_index same]
  · have different : other ≠ key := fun equal => same (by rw [equal])
    rw [if_neg same, if_neg different]

end Each

/-- What an update may come to. -/
inductive Updated (before : Table κ α) (key : κ) (value : α) :
    Table κ α → Except Exhausted (Option α) → Prop where
  | replaced {after : Table κ α} {old : α} (present : before.find? key = some old)
      (found : ∀ other, after.find? other =
        if other = key then some value else before.find? other)
      (evicted : after.evicted = before.evicted) : Updated before key value after (.ok (some old))
  | inserted {after : Table κ α} (absent : before.find? key = none)
      (found : ∀ other, after.find? other =
        if other = key then some value else before.find? other)
      (evicted : after.evicted = before.evicted) : Updated before key value after (.ok none)
  | evicting {after : Table κ α} (absent : before.find? key = none)
      (full : (before.shardOf key).capacity ≤ (before.shardOf key).size)
      (stored : after.find? key = some value)
      (others : ∀ other, other ≠ key →
        after.find? other = none ∨ after.find? other = before.find? other)
      (evicted : after.evicted = before.evicted + 1) : Updated before key value after (.ok none)
  | refused {after : Table κ α} {failure : Exhausted} (absent : before.find? key = none)
      (full : (before.shardOf key).capacity ≤ (before.shardOf key).size)
      (found : ∀ other, after.find? other = before.find? other)
      (evicted : after.evicted = before.evicted) : Updated before key value after (.error failure)

theorem updated_update {table : Table κ α} (bounded : table.Bounded) (key : κ) (value : α) :
    Updated table key value (table.update key value).1 (table.update key value).2 := by
  cases present : table.find? key with
  | some old =>
    rw [update_present present]
    refine .replaced present (fun other => ?_) rfl
    rw [bounded.find?_withShard, Shard.find?_setValue, Shard.find?_touch]
    by_cases same : table.shardIndex other = table.shardIndex key
    · rw [if_pos same, ← find?_of_index same]
      by_cases equal : other = key
      · rw [if_pos equal, if_pos equal, equal, present]
        rfl
      · rw [if_neg equal, if_neg equal]
    · have different : other ≠ key := fun equal => same (by rw [equal])
      rw [if_neg same, if_neg different]
  | none =>
    rw [update_absent present]
    have shard : (table.shardOf key).count.Bounded :=
      ⟨(bounded.shardOf key).distinct, (bounded.shardOf key).room⟩
    have outside : ∀ {other}, table.shardIndex other ≠ table.shardIndex key → other ≠ key :=
      fun apart equal => apart (by rw [equal])
    have inserted := Shard.inserted_insertNew shard key value
    cases answer : (table.shardOf key).count.insertNew key value with
    | mk after result =>
      rw [answer] at inserted
      cases inserted with
      | kept found =>
        refine .inserted present (fun other => ?_) rfl
        refine (bounded.find?_withShard key other after).trans ?_
        by_cases same : table.shardIndex other = table.shardIndex key
        · rw [if_pos same, found, find?_of_index same, Shard.find?_count]
        · rw [if_neg same, if_neg (outside same)]
      | dropping full stored others =>
        refine .evicting present full ?_ (fun other different => ?_) rfl
        · refine (bounded.find?_withShard key key after).trans ?_
          rw [if_pos rfl, stored]
        · have found := bounded.find?_withShard key other after
          by_cases same : table.shardIndex other = table.shardIndex key
          · rw [if_pos same] at found
            rw [find?_of_index same]
            exact (others other different).imp found.trans found.trans
          · rw [if_neg same] at found
            exact .inr found
      | refused full found =>
        refine .refused present full (fun other => ?_) rfl
        rw [bounded.find?_withShard]
        by_cases same : table.shardIndex other = table.shardIndex key
        · rw [if_pos same, found, find?_of_index same, Shard.find?_count]
        · rw [if_neg same]

namespace Updated

variable {before after : Table κ α} {key other : κ} {value record : α}

theorem origin {answer : Except Exhausted (Option α)}
    (updated : Updated before key value after answer) (found : after.find? other = some record) :
    (other = key ∧ record = value ∧ ∃ previous, answer = .ok previous) ∨
      other ≠ key ∧ before.find? other = some record := by
  by_cases same : other = key
  · subst same
    cases updated with
    | replaced _ stored _ | inserted _ stored _ =>
      rw [stored, if_pos rfl, Option.some.injEq] at found
      exact .inl ⟨rfl, found.symm, _, rfl⟩
    | evicting _ _ stored _ _ =>
      rw [stored, Option.some.injEq] at found
      exact .inl ⟨rfl, found.symm, _, rfl⟩
    | refused absent _ unchanged _ =>
      rw [unchanged, absent] at found
      cases found
  · refine .inr ⟨same, ?_⟩
    cases updated with
    | replaced _ stored _ | inserted _ stored _ => rwa [stored, if_neg same] at found
    | evicting _ _ _ others _ =>
      rcases others other same with gone | kept
      · rw [gone] at found
        cases found
      · rwa [kept] at found
    | refused _ _ unchanged _ => rwa [unchanged] at found

theorem stored {previous : Option α} (updated : Updated before key value after (.ok previous)) :
    after.find? key = some value := by
  cases updated with
  | replaced _ found _ | inserted _ found _ => rw [found, if_pos rfl]
  | evicting _ _ stored _ _ => exact stored

theorem evicted_le {answer : Except Exhausted (Option α)}
    (updated : Updated before key value after answer) : after.evicted ≤ before.evicted + 1 := by
  cases updated with
  | replaced _ _ evicted | inserted _ _ evicted | refused _ _ _ evicted =>
    exact Nat.le_succ_of_le (Nat.le_of_eq evicted)
  | evicting _ _ _ _ evicted => exact Nat.le_of_eq evicted

theorem evicted_of_lost {answer : Except Exhausted (Option α)}
    (updated : Updated before key value after answer) (present : before.find? other ≠ none)
    (gone : after.find? other = none) : after.evicted = before.evicted + 1 := by
  cases updated with
  | replaced _ found _ | inserted _ found _ =>
    rw [found] at gone
    by_cases same : other = key
    · rw [if_pos same] at gone
      cases gone
    · rw [if_neg same] at gone
      exact absurd gone present
  | evicting _ _ _ _ evicted => exact evicted
  | refused _ _ found _ => exact absurd ((found other).symm.trans gone) present

end Updated

end Confinement.Table
